import StorageGateway.Authorization
import StorageGateway.Endpoint

/-! A login at one gateway: where it is, the version of its protocol once known, the token, and the
credentials of the last login that succeeded. -/
namespace StorageGateway

structure Session where
  endpoint : Text
  version : Option Text := none
  token : Text := []
  credentials : Option Credentials := none
  deriving DecidableEq

namespace Session

/-- A version that is empty is as good as none. -/
def isVersionKnown (s : Session) : Bool :=
  match s.version with
  | none | some [] => false
  | some _ => true

def isAuthenticated (s : Session) : Bool := !s.token.isEmpty

/-- The session of a new login attempt: the version and the credentials stay, the token goes. -/
def restarted (s : Session) : Session := { s with token := [] }

def established (s : Session) (token : Text) (credentials : Credentials) : Session :=
  { s with token, credentials := some credentials }

def withToken (s : Session) (token : Text) : Session := { s with token }

/-- An empty version is not kept. -/
def withVersion (s : Session) (version : Option Text) : Session :=
  { s with version := version.filter (· ≠ []) }

def resolve (s : Session) (path : Text) : Except Fault Text :=
  (Endpoint.resolve s.endpoint path).mapError fun fault => .ofMishap (.badUrl fault)

/-- The headers of a request in this session. A version that makes no sense has none. -/
def headers (s : Session) (defaults : Option Headers) : Except Fault Headers := do
  let _ ← Version.parse s.version
  Authorization.ofToken s.token s.version (Headers.negotiating s.version defaults)

@[simp] theorem restarted_version (s : Session) : s.restarted.version = s.version := rfl
@[simp] theorem restarted_endpoint (s : Session) : s.restarted.endpoint = s.endpoint := rfl
@[simp] theorem restarted_credentials (s : Session) : s.restarted.credentials = s.credentials := rfl
@[simp] theorem restarted_token (s : Session) : s.restarted.token = [] := rfl

end Session

end StorageGateway
