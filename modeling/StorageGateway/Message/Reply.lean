import StorageGateway.Fault
import StorageGateway.Headers
import StorageGateway.Json.Decoding
import StorageGateway.Text.Blank

/-! What a gateway answers, and the two readings of a body that went well: a bare word or a JSON
value. -/
namespace StorageGateway

structure Reply where
  status : Int
  reason : Option Text := none
  /-- The character set that the gateway declared. -/
  charset : Option Text := none
  headers : Headers := []
  body : Bytes := []
  /-- Set when the connection breaks after the body. -/
  broken : Option StreamBreak := none
  deriving DecidableEq

def isSuccess (status : Int) : Bool := 200 ≤ status && status < 300

def unauthorizedStatus : Int := 401

namespace Reply

def unreadBody : Failure where
  kind := .unreadBody
  message := "error reading body"

/-- The whole body; a reply with status zero has none. -/
def content (r : Reply) : Except Fault (Option Bytes) :=
  if r.status = 0 then .ok none
  else match r.broken with
    | none => .ok (some r.body)
    | some .value => .error (.ofMishap (.brokenStream .value))
    | some why => .error (.wrap unreadBody (.ofMishap (.brokenStream why)))

/-- The name of the character set of the body: UTF-8 unless the gateway declared another. -/
def charsetName (r : Reply) : Text := (r.charset.filter (· ≠ [])).getD "utf-8"

/-- The body as text, as the codec of its character set reads it. -/
def decodedText (codecs : Bytes.Codecs) (r : Reply) (body : Bytes) : Except Fault Text :=
  (codecs.decode r.charsetName body).mapError fun fault => .ofMishap (.codec fault)

/-- A text without the white space around it, and then without one quotation mark at either end. -/
def unquoted (t : Text) : Text :=
  Text.withoutTrailing [CodePoint.quotation] (Text.withoutLeading [CodePoint.quotation] t.trim)

/-- The body as a bare word. -/
def scalar (codecs : Bytes.Codecs) (r : Reply) : Except Fault Text := do
  match ← r.content with
  | none => .error (.ofMishap (.noBody .decode))
  | some body => (r.decodedText codecs body).map unquoted

def bodyMishap : Json.BodyError → Mishap
  | .undecodable => .undecodable
  | .unreadable error => .ofReadError error

def notJson (status : Int) : Failure where
  kind := .unexpectedResponse
  message := "Response did not contain valid JSON"
  status := some status

/-- The body as a JSON value; a blank body counts as null. -/
def json (r : Reply) : Except Fault Json := do
  match ← r.content with
  | none => .error (.ofMishap (.noBody .strip))
  | some body =>
    if Bytes.isBlank body then .ok .null
    else (Json.readBytes body).mapError fun e =>
      .wrap (notJson r.status) (.ofMishap (bodyMishap e))

/-- How many code points of a body that explains nothing are kept. -/
def keptDetails : Nat := 200

def unexplained : Text := "unparseable error response"

/-- The kind of error that a status means. -/
def rejectionKind (status : Int) : Failure.Kind :=
  if status = unauthorizedStatus then .unauthorized else .rejected

/-- The JSON value in a body, or null when there is none. -/
def jsonOrNull (body : Bytes) : Json :=
  if Bytes.isBlank body then .null
  else match Json.readBytes body with
    | .ok v => v
    | .error _ => .null

/-- The message of an error that explains itself: a text that is not empty. -/
def explanation? (payload : Json) : Option Text :=
  ((payload.field? "message").bind Json.text?).filter (· ≠ [])

/-- The error in a body that has been read. -/
def rejectionFrom (r : Reply) (body : Bytes) : Failure :=
  let payload := jsonOrNull body
  match explanation? payload with
  | some message =>
    { kind := rejectionKind r.status
      message
      status := some r.status
      errorCode := (payload.field? "errorCode").bind ErrorCode.ofJson?
      details := (payload.field? "details").getD .null }
  | none =>
    let reason := (r.reason.getD []).trim
    let kept := (Bytes.Utf8.decodeLossy body).take keptDetails
    { kind := rejectionKind r.status
      message := if reason = [] then unexplained else reason
      status := some r.status
      details := if kept = [] then .null else .str kept }

/-- The error that a reply without success stands for. A body that breaks off counts as empty. -/
def rejection (r : Reply) : Except Fault Failure :=
  match r.content with
  | .ok (some body) => .ok (r.rejectionFrom body)
  | .ok none => .error (.ofMishap (.noBody .strip))
  | .error fault =>
    match fault.failure? with
    | some _ => .ok (r.rejectionFrom [])
    | none => .error fault

end Reply

end StorageGateway
