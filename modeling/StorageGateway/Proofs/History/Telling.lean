import StorageGateway.Proofs.History.Happenings

/-! Each call tells by its exchanges what it does to the session, and logs in with the credentials
that the session holds and no other. -/
namespace StorageGateway

/-- What work from one standing to another tells by its events, if the credentials of its logins are
those that are held: the session that it leaves is what its happenings make of the one that it
found, its logins show the credentials, all other requests show the session of their moment, and one
answer is taken for each request. -/
structure Told (w : Wire) (held : Option Credentials) (s : Standing) (events : List Event)
    (left : Standing) : Prop where
  session : left.desk.current =
    s.desk.current.across (Trace.happenings w.codecs held s.script events)
  logins : ∀ e ∈ Trace.exchanges s.script events, e.purpose = .login →
    ∃ c, held = some c ∧ e.Shows c
  headers : ∀ before p request after, events = before ++ .sent p request :: after → p ≠ .login →
    (s.desk.current.across
      (Trace.happenings w.codecs held s.script before)).headers w.defaultHeaders =
      .ok request.headers
  script : left.script = s.script.drop (Trace.purposes events).length

namespace Told

variable {w : Wire} {held : Option Credentials} {s middle left : Standing} {a b : List Event}

theorem of_idle (h : ∀ e ∈ a, Trace.IsIdle e) (hd : left.desk = s.desk)
    (hs : left.script = s.script) : Told w held s a left where
  session := by
    rw [Trace.happenings_of_all_idle s.script h, hd]
    rfl
  logins := by
    rw [Trace.exchanges_of_all_silent s.script fun e he => (h e he).1]
    intro e he
    cases he
  headers before p request after he := by
    have hn := (h (.sent p request) (by rw [he]; simp)).1
    cases hn
  script := by
    rw [Trace.purposes, List.filterMap_eq_nil_iff.mpr fun e he => (h e he).1, hs]
    rfl

/-- Two pieces of work in a row. -/
theorem append (h : Told w held s a middle) (hn : Told w held middle b left) :
    Told w held s (a ++ b) left where
  session := by
    rw [Trace.happenings_append, Session.across_append, ← h.session, ← h.script]
    exact hn.session
  logins := by
    intro e he
    rw [Trace.exchanges_append, List.mem_append, ← h.script] at he
    rcases he with he | he
    · exact h.logins e he
    · exact hn.logins e he
  headers := by
    intro before p request after he hp
    obtain ⟨rest, ha⟩ | ⟨more, rfl, hb⟩ := Trace.split_append he
    · exact h.headers before p request rest ha hp
    · rw [Trace.happenings_append, Session.across_append, ← h.session, ← h.script]
      exact hn.headers more p request after hb hp
  script := by
    rw [hn.script, h.script, List.drop_drop, Trace.purposes_append, List.length_append]

/-- Credentials that were held are held on. -/
theorem credentials_eq (h : Told w s.desk.current.credentials s a left) :
    left.desk.current.credentials = s.desk.current.credentials := by
  rw [h.session]
  exact Trace.credentials_across_happenings rfl s.script a

end Told

@[simp] theorem Wire.happenings_inquiryEvents (w : Wire) (p : Purpose) (request : Request)
    (s : Standing) (held : Option Credentials) (script : List Answer) :
    Trace.happenings w.codecs held script (w.inquiryEvents p request s) =
      (Exchange.happening? w.codecs held ⟨p, request, script.head?⟩).toList := by
  obtain ⟨later, he, hl⟩ := w.inquiryEvents_eq p request s
  rw [he, Trace.happenings_sent, Trace.happenings_of_all_idle _ hl, List.append_nil]

namespace Login

variable (held : Option Credentials) (w : Wire) (c : Credentials) (timeout : Option Binary64)
  (s : Standing)

theorem askVersion_session : (askVersion w timeout s).standing.desk.current =
    s.desk.current.across
      (Trace.happenings w.codecs held s.script (askVersion w timeout s).events) := by
  cases hb : w.versionRequest s.desk.current timeout with
  | error fault =>
    rw [askVersion_unsent hb, Trace.happenings_nil]
    rfl
  | ok request =>
    have hw := Exchange.word?_eq w.codecs ⟨.version, request, s.script.head?⟩
    cases ha : Answer.settle (Reply.verdict (Reply.scalar w.codecs)) s.script.head? with
    | ok raw =>
      rw [ha] at hw
      rw [askVersion_told hb ha, Trace.happenings_append]
      simp [Exchange.happening?, hw, Trace.happenings_noted, Except.toOption, Session.happen,
        Desk.setVersion]
    | error fault =>
      rw [ha] at hw
      rw [askVersion_failed hb ha]
      simp [Exchange.happening?, hw, Except.toOption]

theorem askVersion_headers (before after : List Event) (p : Purpose) (request : Request)
    (he : (askVersion w timeout s).events = before ++ .sent p request :: after) :
    (s.desk.current.across
      (Trace.happenings w.codecs held s.script before)).headers w.defaultHeaders =
      .ok request.headers := by
  cases hb : w.versionRequest s.desk.current timeout with
  | error fault =>
    rw [askVersion_unsent hb] at he
    cases before <;> cases he
  | ok made =>
    obtain ⟨later, hl, hn⟩ := w.inquiryEvents_eq .version made s
    have hq : before = [] ∧ Purpose.version = p ∧ made = request := by
      cases ha : Answer.settle (Reply.verdict (Reply.scalar w.codecs)) s.script.head? with
      | ok raw =>
        rw [askVersion_told hb ha, hl] at he
        refine Trace.sent_once (a := []) (by simp) (fun e hm => ?_) he
        rcases List.mem_append.mp hm with hm | hm
        · exact (hn e hm).1
        · cases List.mem_singleton.mp hm
          rfl
      | error fault =>
        rw [askVersion_failed hb ha, hl] at he
        exact Trace.sent_once (a := []) (by simp) (fun e hm => (hn e hm).1) he
    obtain ⟨rfl, -, rfl⟩ := hq
    rw [Trace.happenings_nil]
    exact Wire.headers_of_versionRequest hb

theorem askVersion_told_of :
    Told w held s (askVersion w timeout s).events (askVersion w timeout s).standing where
  session := askVersion_session held w timeout s
  headers before p request after he _ :=
    askVersion_headers held w timeout s before after p request he
  logins := by
    intro e he hl
    have hp := askVersion_purposes w timeout s _ (Trace.purpose_mem_of_mem_exchanges he)
    rw [hl] at hp
    cases hp
  script := (askVersion_built w timeout).paced s

/-- A login attempt begins, and what its exchange means comes after that. -/
theorem exchange_session : (exchange w c timeout s).standing.desk.current =
    s.desk.current.across (.loginBegun ::
      Trace.happenings w.codecs (some c) s.script (exchange w c timeout s).events) := by
  cases hb : w.loginRequest s.desk.current c timeout with
  | error fault =>
    rw [exchange_unsent hb, Trace.happenings_nil]
    rfl
  | ok request =>
    have ht := Exchange.token?_eq w.codecs ⟨.login, request, s.script.head?⟩
    cases ha : Answer.settle (Reply.token w.codecs) s.script.head? with
    | ok token =>
      rw [ha] at ht
      rw [exchange_won hb ha, Trace.happenings_append]
      simp [Exchange.happening?, ht, Trace.happenings_noted, Except.toOption, Session.happen,
        Desk.start, Desk.establish]
    | error fault =>
      rw [ha] at ht
      rw [exchange_failed hb ha]
      simp [Exchange.happening?, ht, Except.toOption, Session.happen, Desk.start]

theorem exchange_logins :
    ∀ e ∈ Trace.exchanges s.script (exchange w c timeout s).events, e.Shows c := by
  intro e he
  cases hb : w.loginRequest s.desk.current c timeout with
  | error fault =>
    rw [exchange_unsent hb, Trace.exchanges_nil] at he
    cases he
  | ok request =>
    have hx : Trace.exchanges s.script (exchange w c timeout s).events =
        [⟨.login, request, s.script.head?⟩] := by
      cases ha : Answer.settle (Reply.token w.codecs) s.script.head? with
      | ok token => simp [exchange_won hb ha, Trace.exchanges_append]
      | error fault => simp [exchange_failed hb ha]
    rw [hx] at he
    cases List.mem_singleton.mp he
    exact Wire.loginRequest_shows hb _ _

/-- A login attempt that follows a rejected token, with the version that may be asked for after it.
-/
theorem authenticate_told : Told w (some c) s
    (.noted .tokenRejected :: (authenticate w c timeout s).events)
    (authenticate w c timeout s).standing := by
  have hx : Told w (some c) s (.noted .tokenRejected :: (exchange w c timeout s).events)
      (exchange w c timeout s).standing := by
    refine ⟨exchange_session w c timeout s,
      fun e he _ => ⟨c, rfl, exchange_logins w c timeout s e he⟩, ?_,
      (exchange_built w c timeout).paced s⟩
    intro before p request after he hp
    have hm : p ∈ Trace.purposes (.noted .tokenRejected :: (exchange w c timeout s).events) := by
      rw [he]
      simp [Trace.purposes_cons, Trace.purpose?]
    exact absurd (exchange_purposes w c timeout s p hm) hp
  cases hw : (exchange w c timeout s).result with
  | error fault =>
    rw [authenticate_of_error hw]
    exact hx
  | ok token =>
    cases hk : (exchange w c timeout s).standing.desk.current.isVersionKnown with
    | true =>
      rw [authenticate_of_known hw hk]
      exact hx
    | false =>
      rw [authenticate_of_unknown hw hk, ← List.cons_append]
      exact hx.append (askVersion_told_of _ w timeout _)

end Login

namespace Call

variable {α β : Type}

/-- Work that tells what it does wherever it starts, with the credentials that it finds. -/
def Tells (w : Wire) (call : Call α) : Prop :=
  ∀ s, Told w s.desk.current.credentials s (call s).events (call s).standing

namespace Tells

variable {w : Wire}

theorem pure (a : α) : Tells w (Pure.pure a : Call α) := fun _ => .of_idle (by simp) rfl rfl

theorem ofExcept (r : Except Fault α) : Tells w (ofExcept r) := fun _ => .of_idle (by simp) rfl rfl

/-- What comes next finds the credentials that the work before it has found. -/
theorem append {call : Call α} {next : Call β} (h : Tells w call) (hn : Tells w next)
    (s : Standing) :
    Told w s.desk.current.credentials s ((call s).events ++ (next (call s).standing).events)
      (next (call s).standing).standing := by
  have ht := hn (call s).standing
  rw [(h s).credentials_eq] at ht
  exact (h s).append ht

theorem bind {call : Call α} {next : α → Call β} (h : Tells w call) (hn : ∀ a, Tells w (next a)) :
    Tells w (call >>= next) := by
  intro s
  cases hr : (call s).result with
  | ok a =>
    rw [bind_of_ok hr]
    exact h.append (hn a) s
  | error fault =>
    rw [bind_of_error hr]
    exact h s

theorem map {call : Call α} (f : α → β) (h : Tells w call) : Tells w (f <$> call) := by
  intro s
  rw [map_apply]
  exact h s

theorem always {call : Call α} {last : Call Unit} (h : Tells w call) (hl : Tells w last) :
    Tells w (always call last) := fun s => h.append hl s

end Tells

end Call

open Call

namespace Dispatch

variable {α : Type} (w : Wire) (order : Order) (reading : Reply → Except Fault α)

theorem attempt_tells : Tells w (attempt w order reading) := by
  intro s
  refine ⟨?_, ?_, ?_, (attempt_built w order reading).paced s⟩
  · rw [attempt_desk]
    cases hb : w.resourceRequest s.desk.current order with
    | error fault =>
      rw [attempt_unsent hb, Trace.happenings_nil]
      rfl
    | ok request =>
      rw [attempt_sent hb, Trace.happenings_noted _ (by simp), Wire.happenings_inquiryEvents]
      rfl
  · intro e he hl
    have hp := Trace.purpose_mem_of_mem_exchanges he
    rw [attempt_purposes, hl] at hp
    split at hp <;> simp at hp
  · intro before p request after he _
    cases hb : w.resourceRequest s.desk.current order with
    | error fault =>
      rw [attempt_unsent hb] at he
      cases before <;> cases he
    | ok made =>
      obtain ⟨later, hl, hn⟩ := w.inquiryEvents_eq .resource made s
      rw [attempt_sent hb, hl] at he
      obtain ⟨rfl, -, rfl⟩ := Trace.sent_once (a := [.noted _])
        (by simp [Trace.purpose?]) (fun e hm => (hn e hm).1) he
      rw [Trace.happenings_noted _ (by simp), Trace.happenings_nil]
      exact Wire.headers_of_resourceRequest hb

/-- A renewal logs in with the credentials that are held, after the token that was turned down. -/
theorem withRenewal_tells (timeout : Option Binary64) {call : Call α} (h : Tells w call) :
    Tells w (withRenewal w timeout call) := by
  intro s
  obtain hw | ⟨fault, c, hr, hu, hc, hw⟩ := withRenewal_cases w timeout call s
  · rw [hw]
    exact h s
  · have hl := Login.authenticate_told w c timeout (call s).standing
    rw [← hc] at hl
    have hk := hl.credentials_eq
    have ha := h (Login.authenticate w c timeout (call s).standing).standing
    rw [hk, (h s).credentials_eq] at ha
    rw [(h s).credentials_eq] at hl
    obtain ⟨e, he, hw⟩ | ⟨token, ht, hw⟩ := hw
    · rw [hw]
      exact (h s).append hl
    · rw [hw, ← List.cons_append]
      exact (h s).append (hl.append ha)

theorem record_idle (operation : Text) (s : Standing) :
    ∀ e ∈ (record operation s).events, Trace.IsIdle e := by
  obtain ⟨desk, recorder, script, answered⟩ := s
  intro e he
  cases recorder with
  | none => cases he
  | some r =>
    cases r with
    | keeping => cases List.mem_singleton.mp he; exact ⟨rfl, Event.noConfusion⟩
    | failing => cases List.mem_singleton.mp he; exact ⟨rfl, Event.noConfusion⟩

theorem record_tells (operation : Text) : Tells w (record operation) := fun s =>
  .of_idle (record_idle operation s) (by rw [record_standing]) (by rw [record_standing])

theorem dispatch_tells : Tells w (dispatch w order reading) := by
  have hr := withRenewal_tells w order.timeout (attempt_tells w order reading)
  have hv : Tells w (Login.askVersion w order.timeout) := fun s =>
    Login.askVersion_told_of _ w order.timeout s
  intro s
  cases hk : s.desk.current.isVersionKnown with
  | true =>
    rw [dispatch_of_known hk]
    exact hr s
  | false =>
    rw [dispatch_of_unknown hk]
    exact hv.bind (fun _ => hr) s

theorem run_tells : Tells w (run w order reading) :=
  (dispatch_tells w order reading).always (record_tells w _)

end Dispatch

end StorageGateway
