import StorageGateway.Proofs.History.Sessions
import StorageGateway.Proofs.Secrecy.Inquiries

/-! All that can be asked of a client, in lockstep: what an operation does with other secrets cannot
be told apart from what it does with these. -/
namespace StorageGateway

open Call

namespace Login

theorem recordVersion_lockstep {codecs : Bytes.Codecs} (raw : Text) :
    Lockstep codecs Eq (recordVersion raw) (recordVersion raw) := by
  intro s t hst _
  rw [recordVersion_apply, recordVersion_apply]
  exact ⟨rfl, rfl, ⟨hst.session.endpoint, rfl, hst.session.token, hst.session.credentials⟩,
    hst.recorder, hst.answered⟩

theorem discoverVersion_lockstep (w : Wire) (refresh : Bool) (timeout : Option Binary64) :
    Lockstep w.codecs Eq (discoverVersion w refresh timeout)
      (discoverVersion w refresh timeout) := by
  refine Lockstep.session_bind fun s t hst => ?_
  rw [hst.isVersionKnown_eq, hst.version]
  split
  · exact Lockstep.pure rfl
  · exact askVersion_lockstep w timeout

theorem authenticate_lockstep (w : Wire) {c d : Credentials} (hc : c.Alike d)
    (timeout : Option Binary64) :
    Lockstep w.codecs TokensAlike (authenticate w c timeout) (authenticate w d timeout) := by
  refine (exchange_lockstep w hc timeout).bind (exchange_built w c timeout).paced
    (exchange_built w d timeout).paced fun a b hab => ?_
  refine Lockstep.session_bind fun s t hst => ?_
  rw [hst.isVersionKnown_eq]
  split
  · exact Lockstep.pure hab
  · exact ((discoverVersion_lockstep w false timeout).mapFault wrapVersionFault).bind
      ((discoverVersion_built w timeout false).mapFault _).paced
      ((discoverVersion_built w timeout false).mapFault _).paced fun _ _ _ => Lockstep.pure hab

end Login

namespace Dispatch

variable {α : Type} (w : Wire) (order : Order) (reading : Reply → Except Fault α)

theorem withRenewal_lockstep (timeout : Option Binary64) {call : Call α}
    (h : Lockstep w.codecs Eq call call) (hp : Built call) :
    Lockstep w.codecs Eq (withRenewal w timeout call) (withRenewal w timeout call) := by
  refine h.rescue hp.paced hp.paced fun fault => ?_
  refine Lockstep.session_bind fun s t hst => ?_
  have hc := hst.credentials
  generalize s.credentials = c at hc ⊢
  generalize t.credentials = d at hc ⊢
  cases hc with
  | none =>
    cases isUnauthorized fault <;> exact Lockstep.fail fault
  | some hc =>
    cases isUnauthorized fault with
    | false => exact Lockstep.fail fault
    | true =>
      refine (Lockstep.note _).bind (Built.note _).paced (Built.note _).paced fun _ _ _ => ?_
      exact ((Login.authenticate_lockstep w hc timeout).mapFault wrapRenewalFault).bind
        ((Login.authenticate_built w _ timeout).mapFault _).paced
        ((Login.authenticate_built w _ timeout).mapFault _).paced fun _ _ _ => h

theorem record_lockstep {codecs : Bytes.Codecs} (operation : Text) :
    Lockstep codecs Eq (record operation) (record operation) := by
  intro s t hst _
  have hr := hst.recorder
  obtain ⟨desk, recorder, script, answered⟩ := s
  obtain ⟨desk', recorder', script', answered'⟩ := t
  cases hr
  cases recorder with
  | none => exact ⟨rfl, rfl, hst⟩
  | some r => cases r <;> exact ⟨rfl, rfl, hst⟩

theorem dispatch_lockstep :
    Lockstep w.codecs Eq (dispatch w order reading) (dispatch w order reading) := by
  have hr := withRenewal_lockstep w order.timeout (attempt_lockstep w order reading)
    (attempt_built w order reading)
  refine Lockstep.session_bind fun s t hst => ?_
  rw [hst.isVersionKnown_eq]
  split
  · exact hr
  · exact (Login.discoverVersion_lockstep w false order.timeout).bind
      (Login.discoverVersion_built w order.timeout false).paced
      (Login.discoverVersion_built w order.timeout false).paced fun _ _ _ => hr

theorem run_lockstep : Lockstep w.codecs Eq (run w order reading) (run w order reading) :=
  (dispatch_lockstep w order reading).always (dispatch_built w order reading).paced
    (dispatch_built w order reading).paced (record_lockstep _)

end Dispatch

namespace Collection

variable (w : Wire)

theorem list_lockstep (c : Collection) : Lockstep w.codecs Eq (list w c) (list w c) := by
  refine (Dispatch.run_lockstep w _ _).bind (Dispatch.run_built w _ _).paced
    (Dispatch.run_built w _ _).paced fun a b hab => ?_
  rw [hab]
  exact Lockstep.pure rfl

theorem list_built (c : Collection) : Built (list w c) :=
  (Dispatch.run_built w _ _).bind fun _ => .pure _

/-- Work on what a value leads to. -/
theorem ofExcept_bind_lockstep {codecs : Bytes.Codecs} {α : Type} (r : Except Fault α)
    {next : α → Call Json} (h : ∀ a, Lockstep codecs Eq (next a) (next a)) :
    Lockstep codecs Eq (ofExcept r >>= next) (ofExcept r >>= next) := by
  refine (Lockstep.ofExcept (.of_eq rfl)).bind (Built.ofExcept _).paced (Built.ofExcept _).paced
    fun a b hab => ?_
  rw [hab]
  exact h b

theorem follow_lockstep (rel : Text) (resource : Json) :
    Lockstep w.codecs Eq (follow w rel resource) (follow w rel resource) :=
  ofExcept_bind_lockstep _ fun _ => Dispatch.run_lockstep w _ _

theorem act_lockstep (action : Text) (payload resource : Json) :
    Lockstep w.codecs Eq (act w action payload resource) (act w action payload resource) :=
  ofExcept_bind_lockstep _ fun _ => (Dispatch.run_lockstep w _ _).bind
    (Dispatch.run_built w _ _).paced (Dispatch.run_built w _ _).paced fun _ _ _ => Lockstep.pure rfl

end Collection

namespace Operation

/-- Whether the value of an operation is a secret. -/
def returnsToken : Operation → Bool
  | authenticate .. => true
  | _ => false

theorem currentVersion_lockstep (w : Wire) (refresh : Bool) (timeout : Option Binary64) :
    Lockstep w.codecs Eq (currentVersion w refresh timeout) (currentVersion w refresh timeout) := by
  refine Lockstep.session_bind fun s t hst => ?_
  rw [hst.isVersionKnown_eq]
  split
  · refine (Dispatch.run_lockstep w _ _).bind (Dispatch.run_built w _ _).paced
      (Dispatch.run_built w _ _).paced fun a b hab => ?_
    rw [hab]
    exact Login.recordVersion_lockstep b
  · exact Login.discoverVersion_lockstep w false timeout

/-- An operation that brings no secret of its own, or the same, and gives none. -/
theorem same_lockstep (w : Wire) {op : Operation} (h : op.returnsToken = false) :
    Lockstep w.codecs Eq (perform w op) (perform w op) := by
  cases op with
  | authenticate c timeout => cases h
  | execute order => exact Dispatch.run_lockstep w order Reply.json
  | executeScalar order =>
    exact (Dispatch.run_lockstep w order (Reply.scalar w.codecs)).map _ _
      fun _ _ => congrArg Json.str
  | version refresh timeout =>
    exact (currentVersion_lockstep w refresh timeout).map _ _ fun _ _ => congrArg Json.str
  | discoverVersion refresh timeout =>
    exact (Login.discoverVersion_lockstep w refresh timeout).map _ _ fun _ _ => congrArg Json.str
  | recordVersion raw =>
    exact (Login.recordVersion_lockstep raw).map _ _ fun _ _ => congrArg Json.str
  | setToken token =>
    exact fun s t hst _ => ⟨rfl, rfl, ⟨hst.session.endpoint, hst.session.version, .refl token,
      hst.session.credentials⟩, hst.recorder, hst.answered⟩
  | useSession given =>
    exact fun s t hst _ => ⟨rfl, rfl, .refl given, hst.recorder, hst.answered⟩
  | setRecorder recorder => exact fun s t hst _ => ⟨rfl, rfl, hst.session, rfl, hst.answered⟩
  | close => exact fun s t hst _ => ⟨rfl, rfl, hst⟩
  | visit => exact fun s t hst _ => ⟨rfl, rfl, hst⟩
  | listSystems => exact Collection.list_lockstep w .systems
  | getSystem href => exact Dispatch.run_lockstep w _ Reply.json
  | findSystem id name =>
    refine (Collection.list_lockstep w .systems).bind (Collection.list_built w _).paced
      (Collection.list_built w _).paced fun a b hab => ?_
    rw [hab]
    exact Lockstep.ofExcept (.of_eq rfl)
  | systemStatistics system => exact Collection.follow_lockstep w _ system
  | listVolumes => exact Collection.list_lockstep w .volumes
  | getVolume id => exact Dispatch.run_lockstep w _ Reply.json
  | findVolumeId name =>
    exact (Dispatch.run_lockstep w _ (Reply.scalar w.codecs)).map _ _ fun _ _ => congrArg Json.str
  | createVolume draft =>
    exact Collection.ofExcept_bind_lockstep _ fun _ => Dispatch.run_lockstep w _ Reply.json
  | volumeStatistics volume => exact Collection.follow_lockstep w _ volume
  | removeVolume volume mode => exact Collection.act_lockstep w _ _ volume
  | resizeVolume volume size => exact Collection.act_lockstep w _ _ volume

/-- Operations that differ in the secrets that they bring do the same as far as anyone can see. -/
theorem perform_lockstep (w : Wire) {op other : Operation} (h : op.Alike other) :
    Lockstep w.codecs (fun a b => op.returnsToken = false → a = b) (perform w op)
      (perform w other) := by
  cases h with
  | authenticate hc timeout =>
    exact (Login.authenticate_lockstep w hc timeout).map _ _ fun _ _ _ hn => by cases hn
  | setToken ht =>
    exact fun s t hst _ => ⟨fun _ => rfl, rfl, ⟨hst.session.endpoint, hst.session.version, ht,
      hst.session.credentials⟩, hst.recorder, hst.answered⟩
  | useSession hs =>
    exact fun s t hst _ => ⟨fun _ => rfl, rfl, hs, hst.recorder, hst.answered⟩
  | same op =>
    cases hr : op.returnsToken with
    | false => exact (same_lockstep w hr).mono fun _ _ hab _ => hab
    | true =>
      cases op with
      | authenticate c timeout =>
        exact (Login.authenticate_lockstep w (.refl c) timeout).map _ _ fun _ _ _ hn => by cases hn
      | _ => cases hr

end Operation

end StorageGateway
