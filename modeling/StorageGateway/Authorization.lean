import StorageGateway.Bytes.Base64
import StorageGateway.Headers
import StorageGateway.Version

/-! How a request shows who sends it. -/
namespace StorageGateway

structure Credentials where
  username : Text
  password : Text
  deriving DecidableEq

namespace Authorization

def encodeField (t : Text) : Except Fault Bytes :=
  (Bytes.ofLatin1 t).mapError fun rest => .ofMishap (.unencodable rest)

/-- User and password, a colon between them, as base-64 text. -/
def basic (username password : Text) : Except Fault Text := do
  let user ← encodeField username
  let pass ← encodeField password
  return "Basic " ++ Bytes.Base64.encode (user ++ [0x3A] ++ pass)

def bearer (token : Text) : Text := "Bearer " ++ token

/-- Sets the header that logs in with these credentials. -/
def ofCredentials (c : Credentials) (headers : Headers) : Except Fault Headers := do
  return headers.put Headers.authorization (← basic c.username c.password)

/-- Sets the header that shows a token, in the style of the version: newer gateways take it as it
is, older ones as the password of nobody. Without a token nothing is set. -/
def ofToken (token : Text) (version : Option Text) (headers : Headers) : Except Fault Headers :=
  if token = [] then .ok headers
  else do
    let capabilities ← Capabilities.resolve version
    let value ← if capabilities.bearerToken then .ok (bearer token) else basic [] token
    return headers.put Headers.authorization value

end Authorization

end StorageGateway
