import StorageGateway.Text.Blank
import StorageGateway.Url.Join

/-! The address of a gateway, and the addresses of what it serves. -/
namespace StorageGateway.Endpoint

/-- The path segment that callers may leave at the end of an endpoint. -/
def apiSegment : Text := "/api"

def isSlash (c : CodePoint) : Bool := c == CodePoint.slash

/-- The endpoint without white space around it, without slashes at its end, and without one segment
`/api` there. -/
def normalize (endpoint : Text) : Text :=
  Text.withoutTrailing apiSegment (Text.dropEndWhile isSlash (Text.trim endpoint))

/-- The URL of a path at an endpoint. A path that is itself a URL with an authority is kept. -/
def resolve (endpoint path : Text) : Except Url.Fault Text := do
  let parts ← Url.split [] path
  if parts.scheme ≠ [] ∧ parts.authority ≠ [] then .ok path
  else Url.join (normalize endpoint ++ [CodePoint.slash]) (path.dropWhile isSlash)

end StorageGateway.Endpoint
