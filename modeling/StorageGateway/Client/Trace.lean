import StorageGateway.Call

/-! What can be read off the events of a call. -/
namespace StorageGateway

namespace Event

def request? : Event → Option Request
  | sent _ request => some request
  | _ => none

def notice? : Event → Option Notice
  | noted notice => some notice
  | _ => none

def operation? : Event → Option Text
  | timed operation => some operation
  | _ => none

end Event

namespace Trace

/-- The requests in the order in which they were sent. -/
def requests (events : List Event) : List Request := events.filterMap Event.request?

def notices (events : List Event) : List Notice := events.filterMap Event.notice?

/-- The names that a recorder was given. -/
def operations (events : List Event) : List Text := events.filterMap Event.operation?

/-- How often each of `answered` replies was closed. -/
def closings (answered : Nat) (events : List Event) : List Nat :=
  (List.range answered).map fun i => events.count (.closed i)

def disconnections (events : List Event) : Nat := events.count .disconnected

/-- The number of disconnections after each of some pieces of work. -/
def totalDisconnections (before : Nat) : List (List Event) → List Nat
  | [] => []
  | events :: rest =>
    (before + disconnections events) :: totalDisconnections (before + disconnections events) rest

/-- How often warnings about unchecked certificates were turned off. -/
def silencings (events : List Event) : Nat := events.count .warningsSilenced

@[simp] theorem requests_append (a b : List Event) :
    requests (a ++ b) = requests a ++ requests b := by simp [requests]

@[simp] theorem notices_append (a b : List Event) : notices (a ++ b) = notices a ++ notices b := by
  simp [notices]

@[simp] theorem operations_append (a b : List Event) :
    operations (a ++ b) = operations a ++ operations b := by simp [operations]

@[simp] theorem disconnections_append (a b : List Event) :
    disconnections (a ++ b) = disconnections a + disconnections b := by
  simp [disconnections]

end Trace

end StorageGateway
