import StorageGateway.Proofs.Desks
import StorageGateway.Proofs.Renewal.Dialogue

/-! How an answer is read has no part in how it is asked for. A call whose answer is read in some way
is the call that hands the answer out as it came, and the reading after it; so calls that differ in
their reading send, say and leave the same, and a reply that delivers the resource ends them all. -/
namespace StorageGateway

/-- The reply that delivers a resource: one with success, to a request for it. -/
def Exchange.delivered? (e : Exchange) : Option Reply :=
  if e.purpose = .resource then e.reply?.filter fun r => isSuccess r.status else none

theorem Exchange.reply?_isSome_of_delivered {e : Exchange} {r : Reply} (h : e.delivered? = some r) :
    e.reply?.isSome := by
  unfold delivered? at h
  split at h
  · obtain ⟨hr, -⟩ := Option.filter_eq_some_iff.mp h
    rw [hr]
    rfl
  · cases h

/-- The last of some exchanges in which a reply came. -/
def Trace.lastAnswered? (made : List Exchange) : Option Exchange :=
  (made.filter fun e => e.reply?.isSome).getLast?

variable {α : Type}

/-- Reading comes last in what an answer comes to. -/
theorem Answer.settle_read (reading : Reply → Except Fault α) (answer : Option Answer) :
    settle (Reply.verdict reading) answer = (settle (Reply.verdict .ok) answer).bind reading := by
  cases answer with
  | none => rfl
  | some answer =>
    cases answer with
    | unreachable why text => rfl
    | crash why text => rfl
    | reply r =>
      simp only [settle, Reply.verdict]
      split
      · rfl
      · cases r.rejection <;> rfl

/-- A call that is another one with its value read; all but the end is the same. -/
def Call.Reads (reading : Reply → Except Fault α) (call : Call α) (raw : Call Reply) : Prop :=
  ∀ s, call s = { raw s with result := (raw s).result.bind reading }

namespace Dispatch

variable (w : Wire) (order : Order) {reading : Reply → Except Fault α}

theorem attempt_reads (reading : Reply → Except Fault α) :
    Call.Reads reading (attempt w order reading) (attempt w order .ok) := by
  intro s
  cases hb : w.resourceRequest s.desk.current order with
  | error fault =>
    rw [attempt_unsent hb, attempt_unsent hb]
    rfl
  | ok request => rw [attempt_sent hb, attempt_sent hb, Answer.settle_read]

/-- A reading that cannot mean a rejected token has no part in the renewal. -/
theorem withRenewal_reads (timeout : Option Binary64) {call : Call α} {raw : Call Reply}
    (hc : Reply.IsCalm reading) (h : Call.Reads reading call raw) :
    Call.Reads reading (withRenewal w timeout call) (withRenewal w timeout raw) := by
  intro s
  have hcall := h s
  cases hr : (raw s).result with
  | ok r =>
    have halone : withRenewal w timeout raw s = raw s :=
      withRenewal_of_alone fun fault hf => by rw [hr] at hf; cases hf
    rw [halone, ← hcall]
    refine withRenewal_of_alone fun fault hf hu => ?_
    rw [hcall, hr] at hf
    rw [hc r fault hf] at hu
    cases hu
  | error fault =>
    -- the call ends with the same fault in the same session, so it is renewed or not alike
    have hresult : (call s).result = .error fault := by
      rw [hcall, hr]
      rfl
    have hleft : (call s).standing = (raw s).standing := by rw [hcall]
    by_cases hd : isUnauthorized fault = true ∧
        ∃ c, (raw s).standing.desk.current.credentials = some c
    · obtain ⟨hu, c, hk⟩ := hd
      have hk' : (call s).standing.desk.current.credentials = some c := by rw [hleft, hk]
      cases hl : (Login.authenticate w c timeout (raw s).standing).result with
      | error e =>
        rw [withRenewal_of_lost hr hu hk hl,
          withRenewal_of_lost hresult hu hk' (by rw [hleft, hl]), hcall]
        rfl
      | ok token =>
        rw [withRenewal_of_won hr hu hk hl,
          withRenewal_of_won hresult hu hk' (by rw [hleft, hl]), hleft, h, hcall]
    · have hnone : isUnauthorized fault = true →
          (raw s).standing.desk.current.credentials = none := fun hu =>
        Option.eq_none_iff_forall_ne_some.mpr fun c hk => hd ⟨hu, c, hk⟩
      have halone : withRenewal w timeout raw s = raw s := by
        refine withRenewal_of_alone fun fault' hf hu => ?_
        rw [hr] at hf
        cases hf
        exact hnone hu
      rw [halone, ← hcall]
      refine withRenewal_of_alone fun fault' hf hu => ?_
      rw [hresult] at hf
      cases hf
      rw [hleft]
      exact hnone hu

theorem dispatch_reads (hc : Reply.IsCalm reading) :
    Call.Reads reading (dispatch w order reading) (dispatch w order .ok) := by
  intro s
  have hrenewal (s : Standing) :=
    withRenewal_reads w order.timeout hc (attempt_reads w order reading) s
  cases hk : s.desk.current.isVersionKnown with
  | true =>
    rw [dispatch_of_known hk, dispatch_of_known hk]
    exact hrenewal s
  | false =>
    cases hr : (Login.askVersion w order.timeout s).result with
    | error fault =>
      rw [dispatch_of_untold hk hr, dispatch_of_untold hk hr]
      rfl
    | ok version => rw [dispatch_of_told hk hr, dispatch_of_told hk hr, hrenewal]

theorem run_reads (hc : Reply.IsCalm reading) :
    Call.Reads reading (run w order reading) (run w order .ok) := by
  intro s
  have hd := dispatch_reads w order hc s
  simp only [run, Call.always, hd]
  cases (record order.operation (dispatch w order .ok s).standing).result <;> rfl

end Dispatch

/-- What the exchanges of a call show of its end: the last one delivers the reply that the call ends
with, and no other does; a call that fails has none that does. -/
def Trace.Delivers (made : List Exchange) : Except Fault Reply → Prop
  | .ok r => ∃ before e, made = before ++ [e] ∧ e.delivered? = some r ∧
      ∀ x ∈ before, x.delivered? = none
  | .error _ => ∀ x ∈ made, x.delivered? = none

/-- Requests for something else deliver no resource. -/
theorem Trace.undelivered {events : List Event} (h : ∀ p ∈ purposes events, p ≠ .resource)
    (script : List Answer) : ∀ x ∈ exchanges script events, x.delivered? = none :=
  fun _ hx => if_neg (h _ (purpose_mem_of_mem_exchanges hx))

namespace Trace.Delivers

variable {a b made : List Exchange} {result : Except Fault Reply}

/-- One request for the resource delivers what its answer comes to. -/
theorem single (request : Request) (answer : Option Answer) :
    Delivers [⟨.resource, request, answer⟩] (Answer.settle (Reply.verdict .ok) answer) := by
  have hnone (fault : Fault) (h : Exchange.delivered? ⟨.resource, request, answer⟩ = none) :
      Delivers [⟨.resource, request, answer⟩] (.error fault) := by
    intro x hx
    rw [List.mem_singleton.mp hx]
    exact h
  cases answer with
  | none => exact hnone _ rfl
  | some answer =>
    cases answer with
    | unreachable why text => exact hnone _ rfl
    | crash why text => exact hnone _ rfl
    | reply r =>
      simp only [Answer.settle, Reply.verdict]
      cases hs : isSuccess r.status with
      | true => exact ⟨[], _, rfl, by simp [Exchange.delivered?, Exchange.reply?, hs], by simp⟩
      | false =>
        have hn : Exchange.delivered? ⟨.resource, request, some (.reply r)⟩ = none := by
          simp [Exchange.delivered?, Exchange.reply?, hs]
        cases r.rejection with
        | ok failure => exact hnone _ hn
        | error fault => exact hnone _ hn

theorem append (ha : ∀ x ∈ a, x.delivered? = none) (hb : Delivers b result) :
    Delivers (a ++ b) result := by
  cases result with
  | ok r =>
    obtain ⟨before, e, rfl, he, hn⟩ := hb
    refine ⟨a ++ before, e, by simp, he, fun x hx => ?_⟩
    exact (List.mem_append.mp hx).elim (ha x) (hn x)
  | error fault => exact fun x hx => (List.mem_append.mp hx).elim (ha x) (hb x)

/-- Nothing comes after the exchange that delivers the resource. -/
theorem nothing_after (h : Delivers made result) {before after : List Exchange} {e : Exchange}
    (hm : made = before ++ e :: after) (he : e.delivered?.isSome) : after = [] := by
  have hne : e.delivered? ≠ none := Option.isSome_iff_ne_none.mp he
  cases result with
  | error fault => exact absurd (h e (by simp [hm])) hne
  | ok r =>
    obtain ⟨first, last, hl, -, hn⟩ := h
    obtain rfl | ⟨between, x, rfl⟩ := after.eq_nil_or_concat
    · rfl
    · have hsplit : first ++ [last] = (before ++ e :: between) ++ [x] := by
        rw [← hl, hm]
        simp
      have hfirst := (List.append_inj' hsplit rfl).1
      exact absurd (hn e (by simp [hfirst])) hne

/-- Whether the resource was delivered can be told from the last reply that came. -/
theorem toOption_eq (h : Delivers made result) :
    result.toOption = (lastAnswered? made).bind Exchange.delivered? := by
  cases result with
  | ok r =>
    obtain ⟨before, e, rfl, he, -⟩ := h
    have hr := Exchange.reply?_isSome_of_delivered he
    simp [lastAnswered?, hr, he, Except.toOption]
  | error fault =>
    cases hl : lastAnswered? made with
    | none => rfl
    | some e =>
      have hm : e ∈ made := (List.mem_filter.mp (List.mem_of_getLast? hl)).1
      exact (h e hm).symm

end Trace.Delivers

namespace Dispatch

variable (w : Wire) (order : Order) (s : Standing)

theorem attempt_delivers : Trace.Delivers
    (Trace.exchanges s.script (attempt w order .ok s).events) (attempt w order .ok s).result := by
  cases hb : w.resourceRequest s.desk.current order with
  | error fault =>
    rw [attempt_unsent hb]
    exact fun x hx => by simp at hx
  | ok request =>
    rw [attempt_sent hb, Trace.exchanges_noted, Wire.exchanges_inquiryEvents]
    exact .single request s.script.head?

theorem withRenewal_delivers (timeout : Option Binary64) : Trace.Delivers
    (Trace.exchanges s.script (withRenewal w timeout (attempt w order .ok) s).events)
    (withRenewal w timeout (attempt w order .ok) s).result := by
  have hfirst := attempt_delivers w order s
  have hpaced := (attempt_built w order .ok).paced
  obtain hw | ⟨fault, c, hf, -, -, hw⟩ := withRenewal_cases w timeout (attempt w order .ok) s
  · rw [hw]
    exact hfirst
  · rw [hf] at hfirst
    have hlogin := Trace.undelivered
      (Login.authenticate_leaves w c timeout (attempt w order .ok s).standing).2.2
      (attempt w order .ok s).standing.script
    obtain ⟨e, -, hw⟩ | ⟨token, -, hw⟩ := hw
    · rw [hw, Trace.exchanges_append_of_paced hpaced, Trace.exchanges_noted]
      exact .append hfirst hlogin
    · rw [hw, Trace.exchanges_append_of_paced hpaced, Trace.exchanges_noted,
        Trace.exchanges_append_of_paced (Login.authenticate_built w c timeout).paced]
      exact .append hfirst (.append hlogin (attempt_delivers w order _))

theorem dispatch_delivers : Trace.Delivers
    (Trace.exchanges s.script (dispatch w order .ok s).events) (dispatch w order .ok s).result := by
  cases hk : s.desk.current.isVersionKnown with
  | true =>
    rw [dispatch_of_known hk]
    exact withRenewal_delivers w order s order.timeout
  | false =>
    have hv := Trace.undelivered (fun p hp => by
      rw [Login.askVersion_purposes w order.timeout s p hp]
      exact Purpose.noConfusion) s.script
    cases hr : (Login.askVersion w order.timeout s).result with
    | error fault =>
      rw [dispatch_of_untold hk hr]
      exact hv
    | ok version =>
      rw [dispatch_of_told hk hr,
        Trace.exchanges_append_of_paced (Login.askVersion_built w order.timeout).paced]
      exact .append hv (withRenewal_delivers w order _ order.timeout)

theorem run_exchanges : Trace.exchanges s.script (run w order .ok s).events =
    Trace.exchanges s.script (dispatch w order .ok s).events := by
  rw [run, Call.always_events, Trace.exchanges_append,
    Trace.exchanges_of_all_silent _ (record_silent _ _), List.append_nil]

/-- A recorder that fails has the last word. -/
theorem run_result_of_failing (reading : Reply → Except Fault α) (h : s.recorder = some .failing) :
    (run w order reading s).result = .error (.ofMishap .recorderFailed) := by
  have hrec : (dispatch w order reading s).standing.recorder = some .failing := by
    rw [(dispatch_built w order reading).recorder_eq s, h]
  simp only [run, Call.always, record_result_of_failing hrec]

/-- The two shapes of a call, started alike, send and say the same, close the same replies and leave
the same session. A reply that delivers the resource ends them; without one as the last they fail
alike, and with it they differ only in how they read it. A recorder that fails has the last word. -/
theorem shapes_share_protocol (w : Wire) (order : Order) (s : Standing) :
    let call := execute w order s
    let scalar := executeScalar w order s
    let made := Trace.exchanges s.script call.events
    let delivered := (Trace.lastAnswered? made).bind Exchange.delivered?
    call.events = scalar.events ∧ call.standing = scalar.standing ∧
      (∀ before e after, made = before ++ e :: after → e.delivered?.isSome → after = []) ∧
      (s.recorder = some .failing → call.result = .error (.ofMishap .recorderFailed) ∧
        scalar.result = .error (.ofMishap .recorderFailed)) ∧
      (s.recorder ≠ some .failing → match delivered with
        | some r => call.result = r.json ∧ scalar.result = r.scalar w.codecs
        | none => ∃ fault, call.result = .error fault ∧ scalar.result = .error fault) := by
  intro call scalar made delivered
  have hcall : call = _ := run_reads w order Reply.json_calm s
  have hscalar : scalar = _ := run_reads w order (Reply.scalar_calm w.codecs) s
  have hmade : made = Trace.exchanges s.script (dispatch w order .ok s).events := by
    rw [← run_exchanges, ← congrArg Outcome.events hcall]
  have hdelivers := dispatch_delivers w order s
  rw [← hmade] at hdelivers
  refine ⟨by rw [hcall, hscalar], by rw [hcall, hscalar],
    fun before e after => hdelivers.nothing_after, fun hrec => ?_, fun hrec => ?_⟩
  · exact ⟨run_result_of_failing w order s _ hrec, run_result_of_failing w order s _ hrec⟩
  · have hraw := run_result w order .ok s hrec
    have hdel : delivered = (dispatch w order .ok s).result.toOption := hdelivers.toOption_eq.symm
    rw [hcall, hscalar, hraw, hdel]
    cases (dispatch w order .ok s).result with
    | ok r => exact ⟨rfl, rfl⟩
    | error fault => exact ⟨fault, rfl, rfl⟩

end Dispatch

end StorageGateway
