import StorageGateway.Message.Dump
import StorageGateway.Message.Request

/-! What a client says about its work. -/
namespace StorageGateway

inductive Notice.Level where
  | debug
  | info
  deriving DecidableEq

/-- The part of a client that speaks. -/
inductive Notice.Source where
  | client
  | login
  | calls
  | wire
  deriving DecidableEq

inductive Notice where
  | ready (endpoint : Text) (version : Option Text) (verify : Verify) (useTrustStore : Bool)
  | authenticated (username : Text)
  | versionResolved (version raw : Text)
  | calling (method url : Text)
  | tokenRejected
  | requestSent (dump : Text)
  | replyArrived (dump : Text)
  deriving DecidableEq

namespace Notice

def level : Notice → Level
  | ready .. | versionResolved .. | requestSent _ | replyArrived _ => .debug
  | authenticated _ | calling .. | tokenRejected => .info

def source : Notice → Source
  | ready .. => .client
  | authenticated _ | versionResolved .. => .login
  | calling .. | tokenRejected => .calls
  | requestSent _ | replyArrived _ => .wire

def verifyText : Verify → Text
  | .on => Json.displayBool true
  | .off => Json.displayBool false
  | .against path => path

/-- A version that is not known yet, or empty, goes by another word. -/
def versionText : Option Text → Text
  | none | some [] => "unspecified"
  | some v => v

def message : Notice → Text
  | ready endpoint version verify useTrustStore =>
    "PowerFlex client init (endpoint=" ++ endpoint ++ ", version=" ++ versionText version ++
      ", verify_ssl=" ++ verifyText verify ++
      ", use_certs=" ++ Json.displayBool useTrustStore ++ ")"
  | authenticated username => "Authenticated to PowerFlex as " ++ username
  | versionResolved version raw =>
    "PowerFlex protocol version resolved to " ++ version ++ " (raw " ++ raw.quoted ++ ")"
  | calling method url => "PowerFlex request " ++ method ++ " " ++ url
  | tokenRejected => "PowerFlex session token rejected, re-authenticating"
  | requestSent dump => "PowerFlex HTTP request:\n" ++ dump
  | replyArrived dump => "PowerFlex HTTP response: " ++ dump

end Notice

end StorageGateway
