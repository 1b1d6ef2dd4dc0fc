import StorageGateway.Json.Display

/-! The failures that this library reports itself: what kind, in which words, and what the gateway
said about it. -/
namespace StorageGateway

/-- The code that a gateway gives an error: a number, or a truth value kept as one. -/
inductive ErrorCode where
  | number (i : Int)
  | flag (b : Bool)
  deriving DecidableEq

namespace ErrorCode

def toJson : ErrorCode → Json
  | number i => .int i
  | flag b => .bool b

def ofJson? : Json → Option ErrorCode
  | .int i => some (number i)
  | .bool b => some (flag b)
  | _ => none

end ErrorCode

inductive Failure.Kind where
  /-- A setting is missing. -/
  | general
  /-- No response arrived. -/
  | request
  /-- The gateway answered with an error. -/
  | rejected
  /-- The gateway did not accept the session's token. -/
  | unauthorized
  /-- The gateway did not accept the credentials. -/
  | authentication
  /-- A response does not hold what it should. -/
  | unexpectedResponse
  /-- The body of a response broke off. -/
  | unreadBody
  /-- A friendly name leads to nothing. -/
  | resolution
  | missingLink (rel : Text)
  /-- The version of the protocol is unknown or makes no sense. -/
  | version
  deriving DecidableEq

structure Failure where
  kind : Failure.Kind
  message : Text
  status : Option Int := none
  errorCode : Option ErrorCode := none
  details : Json := .null

namespace Failure

/-- Whether the gateway itself answered with this error. -/
def Kind.isRejection : Kind → Bool
  | rejected | unauthorized | authentication => true
  | _ => false

/-- The message of a gateway that has put the real one into the details. -/
def placeholder : Text := "Error with details"

/-- The message of the first entry, if that is an object with one that is not empty. -/
def firstDetail? : Json → Option Text
  | .arr (entry :: _) =>
    match entry.field? "errorMessage" with
    | some message => if message.isTruthy then some message.display else none
    | none => none
  | _ => none

/-- The words of a failure: the message, or the detail that a placeholder stands for. -/
def text (f : Failure) : Text :=
  if f.kind.isRejection ∧ f.message = placeholder then (firstDetail? f.details).getD f.message
  else f.message

end Failure

end StorageGateway
