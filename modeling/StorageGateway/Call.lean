import StorageGateway.Message.Reply
import StorageGateway.Notice
import StorageGateway.Session.Desk

/-! Work that a client does in one step. A call reads the answers that are still to come, says what
happens, and ends with a value or a fault; what it did to the session stays in either case. -/
namespace StorageGateway

/-- What a connection gives for one request. -/
inductive Answer where
  | reply (r : Reply)
  | unreachable (why : Unreachable) (text : Text)
  | crash (why : Crash) (text : Text)

/-- Who keeps the names of timed calls, and may fail at it. -/
inductive Recorder where
  | keeping
  | failing
  deriving DecidableEq

inductive Event where
  | sent (purpose : Purpose) (request : Request)
  /-- A reply has come; its number counts those before it. -/
  | answered (index : Nat) (reply : Reply)
  | closed (index : Nat)
  | noted (notice : Notice)
  | timed (operation : Text)
  /-- Warnings about unchecked certificates were turned off. -/
  | warningsSilenced
  /-- The connection to the gateway was given up. -/
  | disconnected
  deriving DecidableEq

/-- What a call finds: the desk, the recorder, the answers to come and how many have come. -/
structure Standing where
  desk : Desk
  recorder : Option Recorder
  script : List Answer
  answered : Nat

structure Outcome (α : Type) where
  result : Except Fault α
  events : List Event
  standing : Standing

def Call (α : Type) := Standing → Outcome α

namespace Call

variable {α β : Type}

/-- Runs `next` on the value of a finished call; its events come after those of the call. -/
def continue? (o : Outcome α) (next : α → Call β) : Outcome β :=
  match o.result with
  | .ok a =>
    let p := next a o.standing
    { p with events := o.events ++ p.events }
  | .error fault => ⟨.error fault, o.events, o.standing⟩

instance : Monad Call where
  pure a := fun s => ⟨.ok a, [], s⟩
  bind call next := fun s => continue? (call s) next

def fail (fault : Fault) : Call α := fun s => ⟨.error fault, [], s⟩

def ofExcept (r : Except Fault α) : Call α := fun s => ⟨r, [], s⟩

def emit (e : Event) : Call Unit := fun s => ⟨.ok (), [e], s⟩

def note (n : Notice) : Call Unit := emit (.noted n)

/-- The session in use. -/
def session : Call Session := fun s => ⟨.ok s.desk.current, [], s⟩

def changeDesk (f : Desk → Desk) : Call Unit := fun s => ⟨.ok (), [], { s with desk := f s.desk }⟩

def setRecorder (recorder : Option Recorder) : Call Unit := fun s =>
  ⟨.ok (), [], { s with recorder }⟩

/-- The next answer of the script, if there is one. -/
def nextAnswer : Call (Option Answer) := fun s =>
  match s.script with
  | answer :: rest => ⟨.ok (some answer), [], { s with script := rest }⟩
  | [] => ⟨.ok none, [], s⟩

/-- Runs `handler` on the fault of a call, if it ends with one. -/
def rescue (call : Call α) (handler : Fault → Call α) : Call α := fun s =>
  let o := call s
  match o.result with
  | .ok _ => o
  | .error fault =>
    let p := handler fault o.standing
    { p with events := o.events ++ p.events }

/-- Changes the fault of a call that ends with one. -/
def mapFault (f : Fault → Fault) (call : Call α) : Call α := fun s =>
  let o := call s
  { o with result := o.result.mapError f }

/-- Runs `last` when the call has ended, whatever the end; a fault of `last` replaces it. -/
def always (call : Call α) (last : Call Unit) : Call α := fun s =>
  let o := call s
  let p := last o.standing
  ⟨match p.result with
    | .ok _ => o.result
    | .error fault => .error fault, o.events ++ p.events, p.standing⟩

@[simp] theorem pure_apply (a : α) (s : Standing) : (pure a : Call α) s = ⟨.ok a, [], s⟩ := rfl

@[simp] theorem bind_apply (call : Call α) (next : α → Call β) (s : Standing) :
    (call >>= next) s = continue? (call s) next := rfl

@[simp] theorem continue?_ok (a : α) (events : List Event) (s : Standing) (next : α → Call β) :
    continue? ⟨.ok a, events, s⟩ next =
      { next a s with events := events ++ (next a s).events } := rfl

@[simp] theorem continue?_error (fault : Fault) (events : List Event) (s : Standing)
    (next : α → Call β) :
    continue? ⟨.error fault, events, s⟩ next = ⟨.error fault, events, s⟩ := rfl

end Call

end StorageGateway
