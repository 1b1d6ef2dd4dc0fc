import StorageGateway.Client.Basic
import StorageGateway.CommandLine.Choices
import StorageGateway.CommandLine.Run
import StorageGateway.Path

/-! Running a command: the choices are checked, a client is set up and logged in, the command does
its work, the client is closed, and what came of it is shown. -/
namespace StorageGateway.CommandLine

/-- What lies around a command. -/
structure Surroundings where
  environment : Settings.Environment
  store : TrustStore
  codecs : Bytes.Codecs
  /-- Whether there is a file or a directory of this name. -/
  isThere : Text → Bool
  /-- The home of a user; an empty name asks for the one who calls. -/
  home? : Text → Option Text
  script : List Answer

/-- Why a command did not start. -/
inductive Refusal where
  | misuse (m : Misuse)
  | fault (f : Fault)

def Refusal.ending : Refusal → Ending
  | misuse m => .misused m
  | fault f => .broken f

namespace Choices

/-- The file of authorities that the user names. -/
def certificatePath? (choices : Choices) (home? : Text → Option Text) :
    Except Fault (Option Text) :=
  match choices.certificate with
  | none => .ok none
  | some t => ((Path.ofText t).expand home?).map fun p => some p.toText

def verification (choices : Choices) (around : Surroundings) : Except Refusal Verify := do
  match ← (choices.certificatePath? around.home?).mapError .fault with
  | none => return .ofBool !choices.insecure
  | some path =>
    if !around.isThere path then .error (.misuse .certificateMissing)
    else if choices.insecure then .error (.misuse .certificateUnused)
    else return .against path

/-- The credentials, if both the name and the password are there. -/
def credentials (choices : Choices) : Except Refusal Credentials :=
  match choices.username.filter (· ≠ []), choices.password.filter (· ≠ []) with
  | some username, some password => .ok ⟨username, password⟩
  | _, _ => .error (.misuse .credentialsMissing)

def settings (choices : Choices) (verify : Verify) : Settings where
  endpoint := choices.endpoint
  verify := verify
  useTrustStore := choices.useTrustStore
  timeout := choices.timeout
  version := choices.version
  showHttp := choices.showHttp

/-- The payload of a request; empty data is none. -/
def payload (choices : Choices) : Except Refusal (Option Payload) :=
  match choices.data with
  | none | some [] => .ok none
  | some t =>
    match Json.read t with
    | .ok v => .ok (some (.json v))
    | .error e => .error (.misuse (.dataNotJson e))

end Choices

/-- A command that is ready to start. -/
structure Job where
  credentials : Credentials
  settings : Settings
  payload : Option Payload

def Choices.job (choices : Choices) (around : Surroundings) : Except Refusal Job := do
  let payload ← choices.payload
  let credentials ← choices.credentials
  let verify ← choices.verification around
  return ⟨credentials, choices.settings verify, payload⟩

/-- What a command asks of a client that has logged in. -/
def operation (command : Command) (choices : Choices) (payload : Option Payload) : Operation :=
  match command with
  | .version => .version true none
  | .listSystems => .listSystems
  | .listVolumes => .listVolumes
  | .request => .execute { method := choices.method.upper, path := choices.path, payload }

/-- Logs in and does the work of a command. -/
def work (w : Wire) (job : Job) (op : Operation) : Call Json := do
  let _ ← Login.authenticate w job.credentials none
  op.perform w

/-- How the result of a command is shown. -/
def display (command : Command) (choices : Choices) (result : Json) :
    Except Fault Listing.Display :=
  match command with
  | .version => .ok (.text result.display)
  | .listSystems => Listing.present (some .systems) choices.json result
  | .listVolumes => Listing.present (some .volumes) choices.json result
  | .request => .ok (.text result.indented)

def shown : Except Fault Listing.Display → Ending × List Act
  | .ok (.text t) => (.finished, [.printed (line t)])
  | .ok (.table t) => (.finished, [.drawn t])
  | .error fault => (.broken fault, [])

/-- What follows the work: a failure is reported before the client is closed, a result is shown only
afterwards. -/
def conclude (command : Command) (choices : Choices) : Except Fault Json → Ending × List Act
  | .ok result =>
    let (ending, acts) := shown (display command choices result)
    (ending, .did .disconnected :: acts)
  | .error fault =>
    match fault.failure? with
    | some f => (.failed, [.reported (line (report f)), .did .disconnected])
    | none => (.broken fault, [.did .disconnected])

/-- Runs a command with choices that were understood. -/
def perform (around : Surroundings) (command : Command) (choices : Choices) : Run :=
  match choices.job around with
  | .error refusal => { ending := refusal.ending }
  | .ok job =>
    let client := Client.opened around.store around.codecs none job.settings
    let outcome := client.work (work client.wire job (operation command choices job.payload))
      around.script
    let opening := Client.openingEvents (Client.settingsOf job.settings)
    let (ending, acts) := conclude command choices outcome.result
    { ending
      acts := (opening ++ outcome.events).map .did ++ acts
      answered := outcome.standing.answered }

/-- Understands the words of a command line. -/
def understand (env : Settings.Environment) (words : List Text) :
    Except Misuse (Command × Choices) := do
  let (command, rest) ← select words
  return (command, ← Choices.ofGiven command env (← scan command none rest))

def run (around : Surroundings) (words : List Text) : Run :=
  match understand around.environment words with
  | .error m => { ending := .misused m }
  | .ok (command, choices) => perform around command choices

end StorageGateway.CommandLine
