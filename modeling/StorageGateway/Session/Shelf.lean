import StorageGateway.Session.Basic

/-! Sessions as objects that several holders have in hand. A start and a copy make a new object. A
session that is handed over is put into use as the object it is, whether it is new here, a copy or
one that was in use before; and whatever is written goes to the object in use, whoever else holds
it. -/
namespace StorageGateway

/-- What is written to the session in use. -/
inductive Change where
  | establish (token : Text) (credentials : Credentials)
  | setToken (token : Text)
  | setVersion (version : Option Text)
  deriving DecidableEq

def Session.changed (s : Session) : Change → Session
  | .establish token credentials => s.established token credentials
  | .setToken token => s.withToken token
  | .setVersion version => s.withVersion version

/-- The objects are numbered as they came up; there are none with a number from `made` on. -/
structure Shelf where
  object : Nat → Session
  made : Nat
  inUse : Nat
  /-- The object that was handed over last. -/
  handed : Option Nat := none
  /-- The last copy that was taken. -/
  copied : Option Nat := none
  inUse_lt : inUse < made
  handed_lt : ∀ n ∈ handed, n < made := by simp
  copied_lt : ∀ n ∈ copied, n < made := by simp

namespace Shelf

/-- Where a session that is handed over comes from. -/
inductive Source where
  /-- An object of the caller that is new here. -/
  | own (s : Session)
  /-- One that is there already: a copy, or one that was in use before or is so now. -/
  | object (n : Nat)
  deriving DecidableEq

inductive Step where
  | start
  | install (source : Source)
  | write (change : Change)
  | snapshot
  deriving DecidableEq

/-- One object, and nobody else holds it. -/
def opened (s : Session) : Shelf where
  object _ := s
  made := 1
  inUse := 0
  inUse_lt := Nat.zero_lt_one

variable (f : Shelf)

def current : Session := f.object f.inUse

/-- A new object, which is not yet in use. -/
def make (s : Session) : Shelf where
  object n := if n = f.made then s else f.object n
  made := f.made + 1
  inUse := f.inUse
  handed := f.handed
  copied := f.copied
  inUse_lt := Nat.lt_succ_of_lt f.inUse_lt
  handed_lt n h := Nat.lt_succ_of_lt (f.handed_lt n h)
  copied_lt n h := Nat.lt_succ_of_lt (f.copied_lt n h)

def start : Shelf :=
  { f.make f.current.restarted with inUse := f.made, inUse_lt := Nat.lt_succ_self f.made }

def handOver (n : Nat) (h : n < f.made) : Shelf :=
  { f with inUse := n, handed := some n, inUse_lt := h, handed_lt := by simpa using h }

/-- Nothing is handed over with a number that no object has. -/
def install : Source → Shelf
  | .own s => (f.make s).handOver f.made (Nat.lt_succ_self f.made)
  | .object n => if h : n < f.made then f.handOver n h else f

def write (change : Change) : Shelf :=
  { f with object := fun n => if n = f.inUse then f.current.changed change else f.object n }

def snapshot : Shelf :=
  { f.make f.current with copied := some f.made, copied_lt := by simp [make] }

def step : Step → Shelf
  | .start => f.start
  | .install source => f.install source
  | .write change => f.write change
  | .snapshot => f.snapshot

def run (steps : List Step) : Shelf := steps.foldl step f

/-- The states after each of the steps. -/
def history (f : Shelf) : List Step → List Shelf
  | [] => []
  | step :: steps => f.step step :: (f.step step).history steps

end Shelf

end StorageGateway
