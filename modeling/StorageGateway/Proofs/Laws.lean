import Mathlib.Data.List.Forall2
import StorageGateway.CommandLine.Perform
import StorageGateway.Proofs.Operations

/-! Laws of calls. All that a call does about requests and replies it does in single exchanges, with
remarks between them; so what holds of the exchanges that a client makes and of remarks, and of work
in a row when it holds of each piece, holds of every call and of every operation. -/
namespace StorageGateway

/-- An event that neither sends a request nor takes a reply nor closes one. -/
def Event.isAside : Event → Bool
  | sent .. | answered .. | closed _ => false
  | noted _ | timed _ | warningsSilenced | disconnected => true

/-- An aside that does not show an exchange. -/
def Event.isRemark (e : Event) : Bool :=
  e.isAside && e.notice?.all fun n => n.source != .wire

theorem Event.isAside_of_isRemark {e : Event} (h : e.isRemark = true) : e.isAside = true :=
  (Bool.and_eq_true_iff.mp h).1

/-- The requests that a client makes in some session while a timeout is asked for. -/
inductive Wire.Makes (w : Wire) (timeout : Option Binary64) : Purpose → Request → Prop where
  | login {request : Request} (s : Session) (c : Credentials)
      (h : w.loginRequest s c timeout = .ok request) : Makes w timeout .login request
  | version {request : Request} (s : Session) (h : w.versionRequest s timeout = .ok request) :
      Makes w timeout .version request
  | resource {request : Request} (s : Session) (order : Order) (ht : order.timeout = timeout)
      (h : w.resourceRequest s order = .ok request) : Makes w timeout .resource request

/-- What holds between a standing, the events of some work that is done with a timeout and the
standing that the work leaves, as long as each piece of the work has it. The session has no part in
it. -/
structure Law (w : Wire) (timeout : Option Binary64)
    (holds : Standing → List Event → Standing → Prop) : Prop where
  remarks : ∀ {s left : Standing} {events : List Event}, (∀ e ∈ events, e.isRemark = true) →
    left.script = s.script → left.answered = s.answered → holds s events left
  inquiry : ∀ {p : Purpose} {request : Request} {s left : Standing}, w.Makes timeout p request →
    left.script = s.next.script → left.answered = s.next.answered →
    holds s (w.inquiryEvents p request s) left
  append : ∀ {s middle left : Standing} {a b : List Event},
    holds s a middle → holds middle b left → holds s (a ++ b) left

namespace Law

variable {w : Wire} {timeout : Option Binary64} {holds : Standing → List Event → Standing → Prop}
  (law : Law w timeout holds)

include law

theorem nothing (s : Standing) : holds s [] s := law.remarks (by simp) rfl rfl

theorem remark {e : Event} (h : e.isRemark = true) {s left : Standing}
    (hs : left.script = s.script) (ha : left.answered = s.answered) : holds s [e] left :=
  law.remarks (by simp [h]) hs ha

section Login

variable (c : Credentials) (s : Standing)

theorem askVersion :
    holds s (Login.askVersion w timeout s).events (Login.askVersion w timeout s).standing := by
  cases hb : w.versionRequest s.desk.current timeout with
  | error fault =>
    rw [Login.askVersion_unsent hb]
    exact law.nothing s
  | ok request =>
    cases ha : Answer.settle (Reply.verdict (Reply.scalar w.codecs)) s.script.head? with
    | ok raw =>
      rw [Login.askVersion_told hb ha]
      exact law.append (law.inquiry (.version _ hb) rfl rfl) (law.remark rfl rfl rfl)
    | error fault =>
      rw [Login.askVersion_failed hb ha]
      exact law.inquiry (.version _ hb) rfl rfl

theorem exchange :
    holds s (Login.exchange w c timeout s).events (Login.exchange w c timeout s).standing := by
  cases hb : w.loginRequest s.desk.current c timeout with
  | error fault =>
    rw [Login.exchange_unsent hb]
    exact law.remarks (by simp) rfl rfl
  | ok request =>
    cases ha : Answer.settle (Reply.token w.codecs) s.script.head? with
    | ok token =>
      rw [Login.exchange_won hb ha]
      exact law.append (law.inquiry (.login _ c hb) rfl rfl) (law.remark rfl rfl rfl)
    | error fault =>
      rw [Login.exchange_failed hb ha]
      exact law.inquiry (.login _ c hb) rfl rfl

theorem authenticate :
    holds s (Login.authenticate w c timeout s).events
      (Login.authenticate w c timeout s).standing := by
  have hx := law.exchange c s
  cases hr : (Login.exchange w c timeout s).result with
  | error fault =>
    rw [Login.authenticate_of_error hr]
    exact hx
  | ok token =>
    cases hk : (Login.exchange w c timeout s).standing.desk.current.isVersionKnown with
    | true =>
      rw [Login.authenticate_of_known hr hk]
      exact hx
    | false =>
      rw [Login.authenticate_of_unknown hr hk]
      exact law.append hx (law.askVersion _)

theorem discoverVersion (refresh : Bool) :
    holds s (Login.discoverVersion w refresh timeout s).events
      (Login.discoverVersion w refresh timeout s).standing := by
  cases refresh with
  | true =>
    rw [Login.discoverVersion_refresh]
    exact law.askVersion s
  | false =>
    cases hk : s.desk.current.isVersionKnown with
    | true =>
      rw [Login.discoverVersion_of_known hk]
      exact law.nothing s
    | false =>
      rw [Login.discoverVersion_of_unknown false hk]
      exact law.askVersion s

end Login

theorem record (operation : Text) (s : Standing) :
    holds s (Dispatch.record operation s).events (Dispatch.record operation s).standing := by
  rw [Dispatch.record_standing]
  obtain ⟨desk, recorder, script, answered⟩ := s
  refine law.remarks (fun e he => ?_) rfl rfl
  cases recorder with
  | none => cases he
  | some r => cases r <;> cases List.mem_singleton.mp he <;> rfl

section Dispatch

variable {α : Type} (order : Order) (ht : order.timeout = timeout)
  (reading : Reply → Except Fault α) (s : Standing)

include ht

theorem attempt :
    holds s (Dispatch.attempt w order reading s).events
      (Dispatch.attempt w order reading s).standing := by
  cases hb : w.resourceRequest s.desk.current order with
  | error fault =>
    rw [Dispatch.attempt_unsent hb]
    exact law.nothing s
  | ok request =>
    rw [Dispatch.attempt_sent hb]
    exact law.append (law.remark rfl rfl rfl) (law.inquiry (.resource _ order ht hb) rfl rfl)

theorem withRenewal :
    holds s (Dispatch.withRenewal w timeout (Dispatch.attempt w order reading) s).events
      (Dispatch.withRenewal w timeout (Dispatch.attempt w order reading) s).standing := by
  have hfirst := law.attempt order ht reading s
  obtain hw | ⟨fault, c, -, -, -, hw⟩ :=
    Dispatch.withRenewal_cases w timeout (Dispatch.attempt w order reading) s
  · rw [hw]
    exact hfirst
  · have hlogin := law.append (law.remark (e := .noted .tokenRejected) rfl rfl rfl)
      (law.authenticate c (Dispatch.attempt w order reading s).standing)
    obtain ⟨e, -, hw⟩ | ⟨token, -, hw⟩ := hw
    · rw [hw]
      exact law.append hfirst hlogin
    · rw [hw]
      exact law.append hfirst (law.append hlogin (law.attempt order ht reading _))

theorem dispatch :
    holds s (Dispatch.dispatch w order reading s).events
      (Dispatch.dispatch w order reading s).standing := by
  cases hk : s.desk.current.isVersionKnown with
  | true =>
    rw [Dispatch.dispatch_of_known hk, ht]
    exact law.withRenewal order ht reading s
  | false =>
    have hv := law.askVersion s
    rw [← ht] at hv
    cases hr : (Login.askVersion w order.timeout s).result with
    | error fault =>
      rw [Dispatch.dispatch_of_untold hk hr]
      exact hv
    | ok version =>
      have hw := law.withRenewal order ht reading (Login.askVersion w order.timeout s).standing
      rw [← ht] at hw
      rw [Dispatch.dispatch_of_told hk hr]
      exact law.append hv hw

theorem run :
    holds s (Dispatch.run w order reading s).events (Dispatch.run w order reading s).standing := by
  rw [Dispatch.run, Call.always_events, Call.always_standing]
  exact law.append (law.dispatch order ht reading s) (law.record order.operation _)

end Dispatch

theorem currentVersion (refresh : Bool) (s : Standing) :
    holds s (Operation.currentVersion w refresh timeout s).events
      (Operation.currentVersion w refresh timeout s).standing := by
  cases hf : (refresh && s.desk.current.isVersionKnown) with
  | false =>
    rw [Operation.currentVersion_of_kept hf]
    exact law.discoverVersion s false
  | true =>
    have hx := law.run (Operation.versionOrder timeout) rfl (Reply.scalar w.codecs) s
    rw [Operation.currentVersion_of_fresh hf]
    cases hr : (Dispatch.executeScalar w (Operation.versionOrder timeout) s).result with
    | error fault =>
      rw [Call.bind_of_error hr]
      exact hx
    | ok raw =>
      rw [Call.bind_of_ok hr]
      exact law.append hx (law.remark rfl rfl rfl)

/-- A law holds of every operation that asks for its timeout. -/
theorem perform {op : Operation} (ht : op.timeout? = timeout) (s : Standing) :
    holds s (op.perform w s).events (op.perform w s).standing := by
  cases hc : op.isCall with
  | true =>
    have ho := Operation.perform_comesTo w hc s
    generalize op.perform w s = o at ho
    cases ho with
    | unmade fault => exact law.nothing s
    | called order reading further horder => exact law.run order (horder.trans ht) reading s
  | false =>
    cases op with
    | authenticate c limit =>
      obtain rfl : limit = timeout := ht
      rw [Operation.perform, Call.map_apply]
      exact law.authenticate c s
    | version refresh limit =>
      obtain rfl : limit = timeout := ht
      rw [Operation.perform, Call.map_apply]
      exact law.currentVersion refresh s
    | discoverVersion refresh limit =>
      obtain rfl : limit = timeout := ht
      rw [Operation.perform, Call.map_apply]
      exact law.discoverVersion s refresh
    | recordVersion raw => exact law.remark rfl rfl rfl
    | setToken token => exact law.remarks (fun e he => by cases he) rfl rfl
    | useSession given => exact law.remarks (fun e he => by cases he) rfl rfl
    | setRecorder recorder => exact law.remarks (fun e he => by cases he) rfl rfl
    | close => exact law.remark rfl rfl rfl
    | visit => exact law.remark rfl rfl rfl
    | _ => cases hc

omit law in
/-- A law that holds with every timeout holds of the work of every command. -/
theorem work (laws : ∀ timeout, Law w timeout holds) (job : CommandLine.Job) (op : Operation)
    (s : Standing) :
    holds s (CommandLine.work w job op s).events (CommandLine.work w job op s).standing := by
  have hx := (laws none).authenticate job.credentials s
  cases hr : (Login.authenticate w job.credentials none s).result with
  | error fault =>
    rw [CommandLine.work, Call.bind_of_error hr]
    exact hx
  | ok token =>
    rw [CommandLine.work, Call.bind_of_ok hr]
    exact (laws none).append hx ((laws op.timeout?).perform rfl _)

omit law in
/-- Laws for the timeouts of all steps hold of the steps of every run. -/
theorem steps {holds : Option Binary64 → Standing → List Event → Standing → Prop} (c : Client)
    (laws : ∀ timeout, Law c.wire timeout (holds timeout))
    (steps : List (Operation × List Answer)) :
    List.Forall₂ (fun step o => ∃ s : Standing, s.script = step.2 ∧ s.answered = 0 ∧
      holds step.1.timeout? s o.events o.standing) steps (c.run steps) := by
  induction steps generalizing c with
  | nil => exact .nil
  | cons step steps ih =>
    obtain ⟨op, script⟩ := step
    have hstep := (laws op.timeout?).perform rfl ⟨c.desk, c.recorder, script, 0⟩
    exact .cons ⟨_, rfl, rfl, hstep⟩ (ih (c.after (c.step op script)) laws)

end Law

end StorageGateway
