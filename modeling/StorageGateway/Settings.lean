import StorageGateway.Binary64.Reading
import StorageGateway.Fault
import StorageGateway.Headers

/-! What a client is set up with, given by its caller or read from environment variables. -/
namespace StorageGateway

/-- Whether the gateway's certificate is checked, and against which authorities. -/
inductive Verify where
  | on
  | off
  | against (path : Text)
  deriving DecidableEq

def Verify.ofBool (b : Bool) : Verify := if b then on else off

/-- Where the operating system keeps the authorities that it trusts. -/
structure TrustStore where
  file : Option Text := none
  defaultFile : Option Text := none
  deriving DecidableEq

def TrustStore.path? (store : TrustStore) : Option Text :=
  (store.file.filter (· ≠ [])).or (store.defaultFile.filter (· ≠ []))

structure Settings where
  endpoint : Text
  verify : Verify := .on
  useTrustStore : Bool := false
  /-- Seconds after which a request is given up. -/
  timeout : Binary64 := Binary64.ofRatio false 30 1
  version : Option Text := none
  defaultHeaders : Option Headers := none
  showHttp : Bool := false

namespace Settings

/-- The verification that requests carry: the trust store counts when checking is simply on. -/
def resolvedVerify (store : TrustStore) (s : Settings) : Verify :=
  match s.verify, s.useTrustStore with
  | .on, true => (store.path?.map Verify.against).getD .on
  | verify, _ => verify

abbrev Environment := Fields Text

/-- The words for no, besides an empty one. -/
def negativeWords : List Text := ["0", "false", "no", "off", ""]

/-- A variable that is set says yes unless it holds a word for no. -/
def flag (env : Environment) (name : Text) : Bool :=
  match env.get? name with
  | none => false
  | some value => value.trim.lower ∉ negativeWords

def endpointVariable : Text := "POWERFLEX_ENDPOINT"
def timeoutVariable : Text := "POWERFLEX_TIMEOUT"
def insecureVariable : Text := "POWERFLEX_INSECURE"
def trustStoreVariable : Text := "POWERFLEX_USECERTS"
def versionVariable : Text := "POWERFLEX_VERSION"
def showHttpVariable : Text := "POWERFLEX_SHOWHTTP"

def missingEndpoint : Failure where
  kind := .general
  message := "endpoint is required"

def defaultTimeout : Binary64 := Binary64.ofRatio false 30 1

/-- Reads a number of seconds; an empty text leaves the default. -/
def readTimeout (value : Option Text) : Except Fault Binary64 :=
  match value with
  | none | some [] => .ok defaultTimeout
  | some t =>
    match Binary64.read? t with
    | some x => .ok x
    | none => .error (.ofMishap (.notANumber t))

def ofEnvironment (env : Environment) : Except Fault Settings :=
  let endpoint := ((env.get? endpointVariable).getD []).trim
  let version := ((env.get? versionVariable).getD []).trim
  if endpoint = [] then .error (.ofFailure missingEndpoint)
  else (readTimeout (env.get? timeoutVariable)).map fun timeout =>
    { endpoint, timeout
      verify := .ofBool !(flag env insecureVariable)
      useTrustStore := flag env trustStoreVariable
      version := if version = [] then none else some version
      showHttp := flag env showHttpVariable }

end Settings

end StorageGateway
