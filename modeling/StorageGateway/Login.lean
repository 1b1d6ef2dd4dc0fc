import StorageGateway.Wire

/-! Logging in, and learning the version of the gateway's protocol. -/
namespace StorageGateway.Login

def getMethod : Text := "GET"

def loginPath : Text := "/api/login"

def versionPath : Text := "/api/version"

/-- Keeps the version that a gateway gave, shortened to its two numbers. -/
def recordVersion (raw : Text) : Call Text := do
  let version := Version.extract raw
  Call.changeDesk (·.setVersion (some version))
  Call.note (.versionResolved version raw)
  return version

/-- Asks the gateway for its version, once, in the session in use. -/
def askVersion (w : Wire) (timeout : Option Binary64) : Call Text := do
  let s ← Call.session
  let headers ← Call.ofExcept (s.headers w.defaultHeaders)
  let url ← Call.ofExcept (s.resolve versionPath)
  let delivery ← w.send .version (w.request getMethod url headers none none timeout)
  if isSuccess delivery.reply.status then
    let raw ← delivery.read (Reply.scalar w.codecs)
    recordVersion raw
  else delivery.reject

/-- The version of the session, asked for when it is not known or a fresh one is wanted. -/
def discoverVersion (w : Wire) (refresh : Bool) (timeout : Option Binary64) : Call Text := do
  let s ← Call.session
  if !refresh && s.isVersionKnown then return s.version.getD []
  else askVersion w timeout

def authenticationFailed (f : Failure) : Failure where
  kind := .authentication
  message := f.text
  status := some unauthorizedStatus
  errorCode := f.errorCode
  details := f.details

def missingToken (status : Int) : Failure where
  kind := .unexpectedResponse
  message := "Login response did not contain a session token"
  status := some status

/-- A rejected login: the status for unauthorized means that the credentials are wrong. -/
def rejectLogin {α : Type} (d : Delivery) : Call α := do
  let failure ← d.read Reply.rejection
  if failure.status = some unauthorizedStatus then
    Call.fail (.wrap (authenticationFailed failure) (.ofFailure failure))
  else Call.fail (.ofFailure failure)

/-- The exchange of credentials for a token, in a session that starts without one. -/
def exchange (w : Wire) (credentials : Credentials) (timeout : Option Binary64) : Call Text := do
  Call.changeDesk Desk.start
  let s ← Call.session
  let headers ← Call.ofExcept
    (Authorization.ofCredentials credentials (Headers.negotiating s.version w.defaultHeaders))
  let url ← Call.ofExcept (s.resolve loginPath)
  let delivery ← w.send .login (w.request getMethod url headers none none timeout)
  if isSuccess delivery.reply.status then
    let token ← delivery.read (Reply.scalar w.codecs)
    if token = [] then Call.fail (.ofFailure (missingToken delivery.reply.status))
    else
      Call.changeDesk (·.establish token credentials)
      Call.note (.authenticated credentials.username)
      return token
  else rejectLogin delivery

def versionUnknown (cause : Failure) : Failure where
  kind := .version
  message := "error getting version of PowerFlex: " ++ cause.text

/-- A failure to learn the version fails the login; other faults pass. -/
def wrapVersionFault (fault : Fault) : Fault :=
  match fault.failure? with
  | some f => .wrap (versionUnknown f) fault
  | none => fault

/-- Logs in and returns the token. When no version is known yet it is asked for right after. -/
def authenticate (w : Wire) (credentials : Credentials) (timeout : Option Binary64) :
    Call Text := do
  let token ← exchange w credentials timeout
  let s ← Call.session
  if s.isVersionKnown then return token
  else
    let _ ← Call.mapFault wrapVersionFault (discoverVersion w false timeout)
    return token

end StorageGateway.Login
