import StorageGateway.Proofs.Secrecy.Lockstep

/-! The exchanges of two runs in lockstep. What a request for a resource or for the version comes to
is the same in both; a login may win two tokens, of which nobody can see which is which. -/
namespace StorageGateway

open Call

section Answers

variable {codecs : Bytes.Codecs} {s t : Standing} {p : Purpose}

/-- Only a login tells apart what two scripts answer. -/
theorem AnswersAlike.eq_of_ne {fit : Text → Prop} {a b : Option Answer}
    (h : AnswersAlike codecs fit p a b) (hp : p ≠ .login) : a = b := by
  obtain h | ⟨hl, -⟩ := h
  · exact h
  · exact absurd hl hp

/-- A login that is won is won in both runs, and one that is lost is lost alike. -/
theorem AnswersAlike.token_alike {a b : Option Answer}
    (h : AnswersAlike codecs Text.FitsBytes p a b) :
    ResultsAlike TokensAlike (Answer.settle (Reply.token codecs) a)
      (Answer.settle (Reply.token codecs) b) := by
  obtain h | ⟨-, r, q, rfl, rfl, hl⟩ := h
  · exact (ResultsAlike.of_eq (congrArg (Answer.settle (Reply.token codecs)) h)).mono
      fun x y hxy => hxy ▸ TokensAlike.refl x
  · obtain ⟨x, y, hx, hy, hxn, hyn, hxf, hyf⟩ := hl.tokens
    have hs : isSuccess q.status = true := by
      rw [← (Reply.of_masked hl.same).1]
      exact hl.success
    refine .of_oks (a := x) (b := y) ?_ ?_ (.inr ⟨hxf, hyf, ?_⟩)
    · simp [Answer.settle, Reply.token, hl.success, hx, hxn, Except.bind]
    · simp [Answer.settle, Reply.token, hs, hy, hyn, Except.bind]
    · exact ⟨fun h => absurd h hxn, fun h => absurd h hyn⟩

theorem Standing.Alike.next (h : s.Alike t)
    (ha : AnswersAlike codecs Text.FitsBytes p s.script.head? t.script.head?) :
    s.next.Alike t.next := by
  refine ⟨by rw [next_desk, next_desk]; exact h.session,
    by rw [next_recorder, next_recorder]; exact h.recorder, ?_⟩
  have hn := h.answered
  obtain ⟨desk, recorder, script, answered⟩ := s
  obtain ⟨desk', recorder', script', answered'⟩ := t
  cases script with
  | nil =>
    cases script' with
    | nil => exact hn
    | cons b rest' => obtain h | ⟨-, r, q, h, -⟩ := ha <;> cases h
  | cons a rest =>
    cases script' with
    | nil => obtain h | ⟨-, r, q, -, h, -⟩ := ha <;> cases h
    | cons b rest' =>
      obtain h | ⟨-, r, q, h, h', -⟩ := ha
      · cases h
        cases a with
        | reply r => exact congrArg (· + 1) hn
        | unreachable why text => exact hn
        | crash why text => exact hn
      · cases h
        cases h'
        exact congrArg (· + 1) hn

/-- The log of an exchange shows neither the body of the reply nor who has sent the request. -/
theorem Wire.exchangeNotes_congr (w : Wire) {a b : Request} (h : a.masked = b.masked) {r q : Reply}
    (hr : r.masked = q.masked) : w.exchangeNotes a r = w.exchangeNotes b q := by
  obtain ⟨hm, hu, hb, hh⟩ := Request.of_masked h
  obtain ⟨hs, hre, hhe⟩ := Reply.of_masked hr
  unfold exchangeNotes
  rw [hm, hu, hb, hs, hre, hhe, Dump.request_folded_congr hh]

theorem Wire.inquiryEvents_masked (w : Wire) {a b : Request} (h : a.masked = b.masked)
    (hst : s.Alike t) (ha : AnswersAlike codecs Text.FitsBytes p s.script.head? t.script.head?) :
    Trace.masked (w.inquiryEvents p a s) = Trace.masked (w.inquiryEvents p b t) := by
  unfold inquiryEvents
  rw [hst.answered]
  obtain hh | ⟨-, r, q, hr, hq, hl⟩ := ha
  · rw [hh]
    cases t.script.head? with
    | none => simp [Event.masked, h]
    | some answer =>
      cases answer with
      | unreachable why text => simp [Event.masked, h]
      | crash why text => simp [Event.masked, h]
      | reply r => simp [Event.masked, h, w.exchangeNotes_congr h (rfl : r.masked = r.masked)]
  · rw [hr, hq]
    simp [Event.masked, h, w.exchangeNotes_congr h hl.same, hl.same]

end Answers

namespace Dispatch

variable {α : Type}

theorem attempt_lockstep (w : Wire) (order : Order) (reading : Reply → Except Fault α) :
    Lockstep w.codecs Eq (attempt w order reading) (attempt w order reading) := by
  intro s t hst hs
  have hm := ResultsAlike.of_map_eq (w.resourceRequest_masked hst.session order)
  cases hb : w.resourceRequest s.desk.current order with
  | error e =>
    rw [attempt_unsent hb, attempt_unsent (hm.of_error hb)]
    exact ⟨rfl, rfl, hst⟩
  | ok a =>
    obtain ⟨b, hb', hab⟩ := hm.of_ok hb
    rw [attempt_purposes, hb] at hs
    have ha : AnswersAlike w.codecs Text.FitsBytes .resource s.script.head? t.script.head? := hs.1
    obtain ⟨hmethod, hurl, -, -⟩ := Request.of_masked hab
    rw [attempt_sent hb, attempt_sent hb']
    refine ⟨?_, ?_, hst.next ha⟩
    · exact .of_eq (congrArg (Answer.settle (Reply.verdict reading))
        (ha.eq_of_ne Purpose.noConfusion))
    · rw [Trace.masked_cons, Trace.masked_cons, w.inquiryEvents_masked hab hst ha, hmethod, hurl]

end Dispatch

namespace Login

theorem askVersion_lockstep (w : Wire) (timeout : Option Binary64) :
    Lockstep w.codecs Eq (askVersion w timeout) (askVersion w timeout) := by
  intro s t hst hs
  have hm := ResultsAlike.of_map_eq (w.versionRequest_masked hst.session timeout)
  cases hb : w.versionRequest s.desk.current timeout with
  | error e =>
    rw [askVersion_unsent hb, askVersion_unsent (hm.of_error hb)]
    exact ⟨rfl, rfl, hst⟩
  | ok a =>
    obtain ⟨b, hb', hab⟩ := hm.of_ok hb
    cases hv : Answer.settle (Reply.verdict (Reply.scalar w.codecs)) s.script.head? with
    | error e =>
      rw [askVersion_failed hb hv] at hs ⊢
      rw [Wire.purposes_inquiryEvents] at hs
      have ha : AnswersAlike w.codecs Text.FitsBytes .version s.script.head? t.script.head? := hs.1
      have hv' := hv
      rw [ha.eq_of_ne Purpose.noConfusion] at hv'
      rw [askVersion_failed hb' hv']
      exact ⟨rfl, w.inquiryEvents_masked hab hst ha, hst.next ha⟩
    | ok raw =>
      rw [askVersion_told hb hv] at hs ⊢
      rw [Trace.purposes_append, Wire.purposes_inquiryEvents] at hs
      have ha : AnswersAlike w.codecs Text.FitsBytes .version s.script.head? t.script.head? := hs.1
      have hv' := hv
      rw [ha.eq_of_ne Purpose.noConfusion] at hv'
      rw [askVersion_told hb' hv']
      refine ⟨rfl, ?_, ?_⟩
      · rw [Trace.masked_append, Trace.masked_append, w.inquiryEvents_masked hab hst ha]
      · exact ⟨⟨hst.session.endpoint, rfl, hst.session.token, hst.session.credentials⟩,
          (hst.next ha).recorder, (hst.next ha).answered⟩

theorem exchange_lockstep (w : Wire) {c d : Credentials} (hc : c.Alike d)
    (timeout : Option Binary64) :
    Lockstep w.codecs TokensAlike (exchange w c timeout) (exchange w d timeout) := by
  intro s t hst hs
  have hm := ResultsAlike.of_map_eq (w.loginRequest_masked hst.session hc timeout)
  have hr : s.desk.current.restarted.Alike t.desk.current.restarted :=
    ⟨hst.session.endpoint, hst.session.version, .refl [], hst.session.credentials⟩
  cases hb : w.loginRequest s.desk.current c timeout with
  | error e =>
    rw [exchange_unsent hb, exchange_unsent (hm.of_error hb)]
    exact ⟨rfl, rfl, hr, hst.recorder, hst.answered⟩
  | ok a =>
    obtain ⟨b, hb', hab⟩ := hm.of_ok hb
    cases hv : Answer.settle (Reply.token w.codecs) s.script.head? with
    | error e =>
      rw [exchange_failed hb hv] at hs ⊢
      rw [Wire.purposes_inquiryEvents] at hs
      have ha : AnswersAlike w.codecs Text.FitsBytes .login s.script.head? t.script.head? := hs.1
      rw [exchange_failed hb' (ha.token_alike.of_error hv)]
      exact ⟨rfl, w.inquiryEvents_masked hab hst ha, hr, (hst.next ha).recorder,
        (hst.next ha).answered⟩
    | ok token =>
      rw [exchange_won hb hv] at hs ⊢
      rw [Trace.purposes_append, Wire.purposes_inquiryEvents] at hs
      have ha : AnswersAlike w.codecs Text.FitsBytes .login s.script.head? t.script.head? := hs.1
      obtain ⟨token', hv', htt⟩ := ha.token_alike.of_ok hv
      rw [exchange_won hb' hv']
      refine ⟨htt, ?_, ?_⟩
      · rw [Trace.masked_append, Trace.masked_append, w.inquiryEvents_masked hab hst ha,
          hc.username]
      · exact ⟨⟨hst.session.endpoint, hst.session.version, htt, .some hc⟩,
          (hst.next ha).recorder, (hst.next ha).answered⟩

end Login

end StorageGateway
