import StorageGateway.Bytes.Basic
import StorageGateway.Json.Printer
import StorageGateway.Settings

/-! What is sent to a gateway. -/
namespace StorageGateway

/-- Why a request is sent. -/
inductive Purpose where
  | login
  | version
  | resource
  deriving DecidableEq

structure Request where
  method : Text
  url : Text
  params : Option (Fields Text)
  headers : Headers
  body : Option Bytes
  timeout : Binary64
  verify : Verify
  /-- Whether the body of the answer is left to be read later. -/
  streamed : Bool
  deriving DecidableEq

/-- What a caller wants to send along. -/
inductive Payload where
  | json (v : Json)
  | bytes (bs : Bytes)

/-- The bytes of a payload; null stands for no body. -/
def Payload.encode : Payload → Option Bytes
  | json .null => none
  | json v => some (Bytes.ofAscii v.print)
  | bytes bs => some bs

end StorageGateway
