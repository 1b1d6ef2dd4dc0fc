import StorageGateway.Login

/-! Sending a request on behalf of a caller. A session whose token was turned down is renewed once
with the credentials of the last login, and the request sent again. -/
namespace StorageGateway

/-- What a caller asks of a gateway. -/
structure Order where
  method : Text
  path : Text
  payload : Option Payload := none
  params : Option (Fields Text) := none
  timeout : Option Binary64 := none

namespace Order

def body (order : Order) : Option Bytes := order.payload.bind Payload.encode

/-- The name of an operation: its method in capitals and its path. -/
def operation (order : Order) : Text := order.method.upper ++ " " ++ order.path

end Order

namespace Dispatch

variable {α : Type}

/-- Sends the request once and reads the answer. -/
def attempt (w : Wire) (order : Order) (reading : Reply → Except Fault α) : Call α := do
  let s ← Call.session
  let url ← Call.ofExcept (s.resolve order.path)
  let headers ← Call.ofExcept (s.headers w.defaultHeaders)
  Call.note (.calling order.method.upper url)
  let delivery ← w.send .resource
    (w.request order.method url headers order.params order.body order.timeout)
  if isSuccess delivery.reply.status then delivery.read reading
  else delivery.reject

def isUnauthorized (fault : Fault) : Bool :=
  match fault.failure? with
  | some f => f.kind == .unauthorized
  | none => false

def renewalFailed (f : Failure) : Failure where
  kind := .authentication
  message := "Error authenticating: " ++ f.text
  status := f.status
  details := f.details

def wrapRenewalFault (fault : Fault) : Fault :=
  match fault.failure? with
  | some f => .wrap (renewalFailed f) fault
  | none => fault

/-- Runs `call`; if the gateway turns the token down and credentials are known, logs in again and
runs it one more time. -/
def withRenewal (w : Wire) (timeout : Option Binary64) (call : Call α) : Call α :=
  Call.rescue call fun fault => do
    let s ← Call.session
    match isUnauthorized fault, s.credentials with
    | true, some credentials =>
      Call.note .tokenRejected
      let _ ← Call.mapFault wrapRenewalFault (Login.authenticate w credentials timeout)
      call
    | _, _ => Call.fail fault

/-- Tells the recorder, if there is one, which operation has ended. -/
def record (operation : Text) : Call Unit := fun s =>
  match s.recorder with
  | none => ⟨.ok (), [], s⟩
  | some .keeping => ⟨.ok (), [.timed operation], s⟩
  | some .failing => ⟨.error (.ofMishap .recorderFailed), [.timed operation], s⟩

/-- Learns the version if it is not known, then sends the request with one renewal. -/
def dispatch (w : Wire) (order : Order) (reading : Reply → Except Fault α) : Call α := do
  let s ← Call.session
  if s.isVersionKnown then withRenewal w order.timeout (attempt w order reading)
  else
    let _ ← Login.discoverVersion w false order.timeout
    withRenewal w order.timeout (attempt w order reading)

def run (w : Wire) (order : Order) (reading : Reply → Except Fault α) : Call α :=
  Call.always (dispatch w order reading) (record order.operation)

/-- Sends a request whose answer is a JSON value. -/
def execute (w : Wire) (order : Order) : Call Json := run w order Reply.json

/-- Sends a request whose answer is a bare word. -/
def executeScalar (w : Wire) (order : Order) : Call Text := run w order (Reply.scalar w.codecs)

end Dispatch

end StorageGateway
