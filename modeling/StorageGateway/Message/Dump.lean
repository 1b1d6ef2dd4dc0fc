import StorageGateway.Bytes.Utf8
import StorageGateway.Decimal.Integer
import StorageGateway.Headers

/-! Requests and replies as text for a log. Who sent them is left out of it. -/
namespace StorageGateway.Dump

def octetStream : Text := "application/octet-stream"

def redacted : Text := "******"

def isOctetStream (contentType : Option Text) : Bool := Text.holds octetStream (contentType.getD [])

def headerLine (header : Text × Text) : Text :=
  header.1 ++ ": " ++ (if header.1.lower = "authorization" then redacted else header.2)

def headerLines (headers : Headers) : Text :=
  Text.joinWith [CodePoint.newline] (headers.map headerLine)

/-- A body as it is logged: bytes are read as UTF-8. -/
inductive Body where
  | bytes (bs : Bytes)
  | text (t : Text)

def Body.shown : Body → Text
  | bytes bs => Bytes.Utf8.decodeLossy bs
  | text t => t

def Body.isEmpty : Body → Bool
  | bytes bs => bs.isEmpty
  | text t => t.isEmpty

/-- A request line, the header lines, and the body unless it is a mere stream of bytes; empty parts
leave no line. -/
def request (method url : Text) (headers : Headers) (body : Option Body) : Text :=
  let shown : Text := match body with
    | some body =>
      if body.isEmpty || isOctetStream (headers.getFolded? Headers.contentType) then []
      else body.shown
    | none => []
  let lines := [method ++ " " ++ url, headerLines headers, shown]
  Text.joinWith [CodePoint.newline] (lines.filter (· ≠ []))

def reply (status : Int) (reason : Option Text) (headers : Headers) : Text :=
  Decimal.integer status ++ " " ++ reason.getD "None" ++ "\n" ++ headerLines headers

end StorageGateway.Dump
