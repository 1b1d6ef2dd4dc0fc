import StorageGateway.Call

/-! The way to the gateway: one request, one answer. -/
namespace StorageGateway

/-- What all requests of a client have in common. -/
structure Wire where
  verify : Verify
  timeout : Binary64
  defaultHeaders : Option Headers
  showHttp : Bool
  /-- How bare words are read. -/
  codecs : Bytes.Codecs

def Wire.ofSettings (store : TrustStore) (codecs : Bytes.Codecs) (settings : Settings) : Wire where
  verify := settings.resolvedVerify store
  timeout := settings.timeout
  defaultHeaders := settings.defaultHeaders
  showHttp := settings.showHttp
  codecs := codecs

/-- A reply and its number among those of the step. -/
structure Delivery where
  index : Nat
  reply : Reply

/-- Closes a reply and reads it. -/
def Delivery.read {α : Type} (d : Delivery) (reading : Reply → Except Fault α) : Call α := do
  Call.emit (.closed d.index)
  Call.ofExcept (reading d.reply)

/-- Closes a reply without success and fails with the error that it stands for. -/
def Delivery.reject {α : Type} (d : Delivery) : Call α := do
  let failure ← d.read Reply.rejection
  Call.fail (.ofFailure failure)

namespace Wire

/-- A request as this client sends it. -/
def request (w : Wire) (method url : Text) (headers : Headers) (params : Option (Fields Text))
    (body : Option Bytes) (timeout : Option Binary64) : Request where
  method := method
  url := url
  params := params
  headers := headers
  body := body
  timeout := timeout.getD w.timeout
  verify := w.verify
  streamed := true

/-- The failure of a request without a response: the reason, or the name of its kind. -/
def noResponse (why : Unreachable) (text : Text) : Fault :=
  let reason := if text.trim = [] then why.label else text.trim
  .wrap
    { kind := .request
      message := "Failed to communicate with PowerFlex API: " ++ reason
      details := .str reason }
    (.ofMishap (.unreachable why text))

/-- What a script without answers gives. -/
def nothingLeft : Fault := noResponse .connection "no scripted response"

/-- Logs a request and its reply, with the sender left out. -/
def showExchange (request : Request) (reply : Reply) : Call Unit := do
  Call.note (.requestSent
    (Dump.request request.method request.url (Headers.folded request.headers)
      (request.body.map .bytes)))
  Call.note (.replyArrived (Dump.reply reply.status reply.reason reply.headers))

/-- Counts a reply that has come. -/
def deliver (r : Reply) : Call Delivery := fun s =>
  ⟨.ok ⟨s.answered, r⟩, [.answered s.answered r], { s with answered := s.answered + 1 }⟩

def send (w : Wire) (purpose : Purpose) (request : Request) : Call Delivery := do
  Call.emit (.sent purpose request)
  match ← Call.nextAnswer with
  | none => Call.fail nothingLeft
  | some (.unreachable why text) => Call.fail (noResponse why text)
  | some (.crash why text) => Call.fail (.ofMishap (.crashed why text))
  | some (.reply r) =>
    let delivery ← deliver r
    if w.showHttp then showExchange request r
    return delivery

end Wire

end StorageGateway
