import StorageGateway.Proofs.Desks

/-! What operations come to. Those on resources are each one call, whose answer may be read further,
or fail at once on what they are given; what holds of calls carries over to all of them. -/
namespace StorageGateway

namespace Call

variable {α : Type}

/-- Reading the value of a call further changes nothing but its end. -/
theorem bind_ofExcept_apply (call : Call α) (further : α → Except Fault Json) (s : Standing) :
    (call >>= fun a => ofExcept (further a)) s =
      { call s with result := (call s).result.bind further } := by
  cases hr : (call s).result with
  | ok a =>
    rw [bind_of_ok hr, ofExcept_apply, List.append_nil]
    rfl
  | error fault =>
    rw [bind_of_error hr]
    rfl

end Call

namespace Operation

open Call

/-- Whether an operation calls for a resource. -/
def isCall : Operation → Bool
  | authenticate .. | version .. | discoverVersion .. | recordVersion _ | setToken _ | useSession _
  | setRecorder _ | close | visit => false
  | _ => true

/-- The timeout that is asked for with an operation. -/
def timeout? : Operation → Option Binary64
  | authenticate _ timeout | version _ timeout | discoverVersion _ timeout => timeout
  | execute order | executeScalar order => order.timeout
  | _ => none

/-- The outcomes of operations that call for a resource and ask for a timeout. -/
inductive ComesTo (w : Wire) (timeout : Option Binary64) (s : Standing) : Outcome Json → Prop where
  /-- What it is given leads to nothing that could be called for. -/
  | unmade (fault : Fault) : ComesTo w timeout s ⟨.error fault, [], s⟩
  /-- One call, the end of which is read further. -/
  | called {α : Type} (order : Order) (reading : Reply → Except Fault α)
      (further : α → Except Fault Json) (ht : order.timeout = timeout) :
      ComesTo w timeout s { Dispatch.run w order reading s with
        result := (Dispatch.run w order reading s).result.bind further }

namespace ComesTo

variable {α : Type} {w : Wire} {timeout : Option Binary64} {s : Standing}

theorem of_bind (order : Order) (reading : Reply → Except Fault α)
    (further : α → Except Fault Json) (ht : order.timeout = timeout) :
    ComesTo w timeout s ((Dispatch.run w order reading >>= fun a => ofExcept (further a)) s) := by
  rw [bind_ofExcept_apply]
  exact called order reading further ht

theorem of_map (order : Order) (reading : Reply → Except Fault α) (f : α → Json)
    (ht : order.timeout = timeout) :
    ComesTo w timeout s ((f <$> Dispatch.run w order reading) s) :=
  of_bind order reading (fun a => .ok (f a)) ht

theorem of_run (order : Order) (reading : Reply → Except Fault Json)
    (ht : order.timeout = timeout) : ComesTo w timeout s (Dispatch.run w order reading s) := by
  have h := @called w timeout s Json order reading .ok ht
  have hr (r : Except Fault Json) : r.bind .ok = r := by cases r <;> rfl
  rw [hr] at h
  exact h

/-- An operation that first looks at what it is given. -/
theorem of_given {given : Except Fault α} {next : α → Call Json}
    (h : ∀ a, ComesTo w timeout s (next a s)) :
    ComesTo w timeout s ((ofExcept given >>= next) s) := by
  cases given with
  | ok a => exact h a
  | error fault => exact unmade fault

end ComesTo

section CurrentVersion

variable {w : Wire} {refresh : Bool} {timeout : Option Binary64} {s : Standing}

/-- The version that is asked for like a resource. -/
theorem currentVersion_of_fresh (h : (refresh && s.desk.current.isVersionKnown) = true) :
    currentVersion w refresh timeout s =
      (Dispatch.executeScalar w (versionOrder timeout) >>= Login.recordVersion) s := by
  simp only [currentVersion, bind_apply, session_apply, continue?_ok, h, if_true, List.nil_append]

theorem currentVersion_of_kept (h : (refresh && s.desk.current.isVersionKnown) = false) :
    currentVersion w refresh timeout s = Login.discoverVersion w false timeout s := by
  simp only [currentVersion, bind_apply, session_apply, continue?_ok, h, Bool.false_eq_true,
    if_false, List.nil_append]

end CurrentVersion

/-- Every operation on resources comes to one call at most. -/
theorem perform_comesTo (w : Wire) {op : Operation} (h : op.isCall = true) (s : Standing) :
    ComesTo w op.timeout? s (perform w op s) := by
  have act (action : Text) (payload resource : Json) :
      ComesTo w none s (Collection.act w action payload resource s) :=
    .of_given fun link => .of_bind _ Reply.json (fun _ => .ok .null) rfl
  cases op with
  | authenticate => cases h
  | version => cases h
  | discoverVersion => cases h
  | recordVersion => cases h
  | setToken => cases h
  | useSession => cases h
  | setRecorder => cases h
  | close => cases h
  | visit => cases h
  | execute order => exact .of_run order Reply.json rfl
  | executeScalar order => exact .of_map order (Reply.scalar w.codecs) Json.str rfl
  | listSystems =>
    exact .of_bind _ Reply.json (fun answer => .ok (if answer.isTruthy then answer else .arr []))
      rfl
  | getSystem href => exact .of_run _ Reply.json rfl
  | findSystem id name =>
    change ComesTo w none s ((Collection.list w .systems >>= fun systems =>
      ofExcept (systems.parts >>= Systems.firstWanted id name)) s)
    rw [Collection.list, Call.bind_assoc]
    exact .of_bind _ Reply.json (fun answer =>
      (if answer.isTruthy then answer else .arr []).parts >>= Systems.firstWanted id name) rfl
  | systemStatistics system => exact .of_given fun link => .of_run _ Reply.json rfl
  | listVolumes =>
    exact .of_bind _ Reply.json (fun answer => .ok (if answer.isTruthy then answer else .arr []))
      rfl
  | getVolume id => exact .of_run _ Reply.json rfl
  | findVolumeId name => exact .of_map _ (Reply.scalar w.codecs) Json.str rfl
  | createVolume draft => exact .of_given fun fields => .of_run _ Reply.json rfl
  | volumeStatistics volume => exact .of_given fun link => .of_run _ Reply.json rfl
  | removeVolume volume mode => exact act _ _ volume
  | resizeVolume volume size => exact act _ _ volume

end Operation

end StorageGateway
