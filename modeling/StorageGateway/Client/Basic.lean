import StorageGateway.Operation

/-! A client of one gateway: how it reaches it, the session it works in, and who keeps its times. -/
namespace StorageGateway

structure Client where
  wire : Wire
  desk : Desk
  recorder : Option Recorder := none

namespace Client

/-- The settings that a client works with: an empty version is none. -/
def settingsOf (settings : Settings) : Settings :=
  { settings with version := settings.version.filter (· ≠ []) }

def opened (store : TrustStore) (codecs : Bytes.Codecs) (recorder : Option Recorder)
    (given : Settings) : Client :=
  let settings := settingsOf given
  { wire := Wire.ofSettings store codecs settings
    desk := { current := { endpoint := settings.endpoint, version := settings.version } }
    recorder }

/-- What is said when a client is set up. -/
def openingEvents (settings : Settings) : List Event :=
  let ready : Notice :=
    .ready settings.endpoint settings.version settings.verify settings.useTrustStore
  .noted ready :: if settings.verify = .off then [.warningsSilenced] else []

/-- Runs a call with a script of answers of its own. -/
def work {α : Type} (c : Client) (call : Call α) (script : List Answer) : Outcome α :=
  call { desk := c.desk, recorder := c.recorder, script, answered := 0 }

/-- The client as a piece of work leaves it. -/
def after {α : Type} (c : Client) (o : Outcome α) : Client :=
  { c with desk := o.standing.desk, recorder := o.standing.recorder }

def step (c : Client) (op : Operation) (script : List Answer) : Outcome Json :=
  c.work (op.perform c.wire) script

/-- The outcomes of steps taken one after the other; a fault does not end them. -/
def run (c : Client) : List (Operation × List Answer) → List (Outcome Json)
  | [] => []
  | (op, script) :: steps =>
    c.step op script :: (c.after (c.step op script)).run steps

@[simp] theorem run_nil (c : Client) : c.run [] = [] := rfl

@[simp] theorem after_wire {α : Type} (c : Client) (o : Outcome α) :
    (c.after o).wire = c.wire := rfl

@[simp] theorem length_run (c : Client) (steps : List (Operation × List Answer)) :
    (c.run steps).length = steps.length := by
  induction steps generalizing c with
  | nil => rfl
  | cons step steps ih => simp [run, ih]

end Client

end StorageGateway
