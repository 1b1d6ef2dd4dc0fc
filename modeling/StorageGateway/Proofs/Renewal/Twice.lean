import StorageGateway.Proofs.Renewal.Dialogue

/-! A call that sends its request twice. It does so only around a login that has won a token, and
the second request is made from the session that the login has left; this holds of all replies,
sound or not. -/
namespace StorageGateway

open Exchange

namespace Trace

/-- The exchanges for the resource itself. -/
def attempts (script : List Answer) (events : List Event) : List Exchange :=
  (exchanges script events).filter fun e => e.purpose = .resource

theorem attempts_of_no_resource (script : List Answer) {events : List Event}
    (h : ∀ p ∈ purposes events, p ≠ .resource) : attempts script events = [] := by
  refine List.filter_eq_nil_iff.mpr fun e he => ?_
  simpa using h _ (purpose_mem_of_mem_exchanges he)

theorem attempts_append_of_paced {α : Type} {call : Call α} (h : Call.Paced call) (s : Standing)
    (later : List Event) :
    attempts s.script ((call s).events ++ later) =
      attempts s.script (call s).events ++ attempts (call s).standing.script later := by
  rw [attempts, exchanges_append_of_paced h, List.filter_append]
  rfl

@[simp] theorem attempts_noted (script : List Answer) (n : Notice) (events : List Event) :
    attempts script (.noted n :: events) = attempts script events := by
  rw [attempts, exchanges_noted]
  rfl

end Trace

/-- The exchanges of a call that sends its request twice. -/
structure Replay where
  leading : Option Exchange := none
  first : Exchange
  login : Exchange
  inner : Option Exchange := none
  second : Exchange

namespace Replay

def word (r : Replay) : List Exchange :=
  r.leading.toList ++ r.first :: r.login :: (r.inner.toList ++ [r.second])

/-- How the second request comes after the first, from the session of the first to the one that is
left in the end. -/
structure Renews (r : Replay) (w : Wire) (order : Order) (s left : Session) : Prop where
  first : w.resourceRequest s order = .ok r.first.request
  login : r.login.purpose = .login
  won : (r.login.token? w.codecs).isSome
  inner : Happens .version (s.isVersionKnown = false)
    (w.versionRequest (s.renewed w.codecs (some r.login)) order.timeout) r.inner
  ready : s.isVersionKnown = true ∨ (r.inner.bind (word? w.codecs)).isSome
  leaves : left = (s.renewed w.codecs (some r.login)).told w.codecs r.inner
  second : w.resourceRequest left order = .ok r.second.request

/-- The version comes first if it is not known. -/
structure Follows (r : Replay) (w : Wire) (order : Order) (s left : Session) : Prop where
  leading : Happens .version (s.isVersionKnown = false) (w.versionRequest s order.timeout) r.leading
  ready : s.isVersionKnown = true ∨ (r.leading.bind (word? w.codecs)).isSome
  renews : r.Renews w order (s.told w.codecs r.leading) left

theorem Renews.withLeading {r : Replay} {w : Wire} {order : Order} {s left : Session}
    (h : r.Renews w order s left) (leading : Option Exchange) :
    ({ r with leading } : Replay).Renews w order s left :=
  ⟨h.first, h.login, h.won, h.inner, h.ready, h.leaves, h.second⟩

end Replay

theorem eq_some_of_toList_append {β : Type} {x y : Option β} {a b : β}
    (h : x.toList ++ y.toList = [a, b]) : x = some a ∧ y = some b := by
  cases x <;> cases y <;> simp at h
  exact ⟨congrArg some h.1, congrArg some h.2⟩

/-- A login attempt that succeeds with the credentials that the session holds: a token is won, and
the version is told unless it is known already. -/
theorem Login.authenticate_won (w : Wire) (timeout : Option Binary64) (s : Standing)
    {c : Credentials} {token : Text} (hc : s.desk.current.credentials = some c)
    (h : (authenticate w c timeout s).result = .ok token) :
    ∃ login inner, login.purpose = .login ∧ (login.token? w.codecs).isSome ∧
      Happens .version (s.desk.current.isVersionKnown = false)
        (w.versionRequest (s.desk.current.renewed w.codecs (some login)) timeout) inner ∧
      (s.desk.current.isVersionKnown = true ∨ (inner.bind (word? w.codecs)).isSome) ∧
      Trace.exchanges s.script (authenticate w c timeout s).events = login :: inner.toList ∧
      (authenticate w c timeout s).standing.desk.current =
        (s.desk.current.renewed w.codecs (some login)).told w.codecs inner := by
  obtain ⟨inner, hx, hi, hleft, hr⟩ := authenticate_upon w c timeout s hc
  rw [h] at hr
  obtain ⟨hwon, hready⟩ := hr.mp rfl
  have hl := happens_upon .login trivial (w.loginRequest s.desk.current c timeout) s.script
  generalize upon .login (w.loginRequest s.desk.current c timeout) s.script = e
    at hx hi hleft hwon hl
  obtain ⟨login, rfl⟩ := Option.isSome_iff_exists.mp (Option.isSome_of_isSome_bind hwon)
  exact ⟨login, inner, hl.2.1, hwon, hi.congr (and_iff_right hwon), hready, hx, hleft hwon⟩

namespace Dispatch

variable {α : Type} (w : Wire) (order : Order) {reading : Reply → Except Fault α} (s : Standing)
  {first second : Exchange}

theorem attempt_attempts :
    Trace.attempts s.script (attempt w order reading s).events =
      (upon .resource (w.resourceRequest s.desk.current order) s.script).toList := by
  rw [Trace.attempts, attempt_exchanges]
  cases w.resourceRequest s.desk.current order <;> rfl

/-- A renewal that sends the request twice. -/
theorem withRenewal_twice
    (h : Trace.attempts s.script
      (withRenewal w order.timeout (attempt w order reading) s).events = [first, second]) :
    ∃ r : Replay, r.leading = none ∧ r.first = first ∧ r.second = second ∧
      Trace.exchanges s.script
        (withRenewal w order.timeout (attempt w order reading) s).events = r.word ∧
      r.Renews w order s.desk.current
        (withRenewal w order.timeout (attempt w order reading) s).standing.desk.current := by
  have hpaced := (attempt_built w order reading).paced
  have honce : Trace.attempts s.script (attempt w order reading s).events ≠ [first, second] := by
    rw [attempt_attempts]
    cases upon .resource (w.resourceRequest s.desk.current order) s.script <;> simp
  obtain hw | ⟨fault, c, -, -, hc, hw⟩ :=
    withRenewal_cases w order.timeout (attempt w order reading) s
  · rw [hw] at h
    exact absurd h honce
  · have hd := attempt_desk w order reading s
    generalize hs₁ : (attempt w order reading s).standing = s₁ at hc hd hw
    have hlogin : Trace.attempts s₁.script (Login.authenticate w c order.timeout s₁).events = [] :=
      Trace.attempts_of_no_resource _ (Login.authenticate_leaves w c order.timeout s₁).2.2
    obtain ⟨e, -, hw⟩ | ⟨token, ht, hw⟩ := hw
    · rw [hw, Trace.attempts_append_of_paced hpaced, hs₁, Trace.attempts_noted, hlogin,
        List.append_nil] at h
      exact absurd h honce
    · obtain ⟨login, inner, hl, hwon, hi, hready, hx, hleft⟩ :=
        Login.authenticate_won w order.timeout s₁ hc ht
      have hlp := (Login.authenticate_built w c order.timeout).paced
      generalize hs₂ : (Login.authenticate w c order.timeout s₁).standing = s₂ at hw hleft
      have hfirst := happens_upon .resource trivial (w.resourceRequest s.desk.current order)
        s.script
      have hsecond := happens_upon .resource trivial (w.resourceRequest s₂.desk.current order)
        s₂.script
      rw [hw, Trace.attempts_append_of_paced hpaced, hs₁, Trace.attempts_noted,
        Trace.attempts_append_of_paced hlp, hlogin, List.nil_append, hs₂, attempt_attempts,
        attempt_attempts] at h
      obtain ⟨he, he'⟩ := eq_some_of_toList_append h
      rw [he] at hfirst
      rw [he'] at hsecond
      rw [hd] at hi hready hleft
      refine ⟨{ first, login, inner, second }, rfl, rfl, rfl, ?_, ?_⟩
      · rw [hw, Trace.exchanges_append_of_paced hpaced, hs₁, Trace.exchanges_noted,
          Trace.exchanges_append_of_paced hlp, hx, hs₂, attempt_exchanges, attempt_exchanges, he,
          he']
        rfl
      · rw [hw, attempt_desk]
        exact ⟨hfirst.2.2, hl, hwon, hi, hready, hleft, hsecond.2.2⟩

/-- A call that sends its request twice. -/
theorem dispatch_twice
    (h : Trace.attempts s.script (dispatch w order reading s).events = [first, second]) :
    ∃ r : Replay, r.first = first ∧ r.second = second ∧
      Trace.exchanges s.script (dispatch w order reading s).events = r.word ∧
      r.Follows w order s.desk.current (dispatch w order reading s).standing.desk.current := by
  cases hk : s.desk.current.isVersionKnown with
  | true =>
    rw [dispatch_of_known hk] at h ⊢
    obtain ⟨r, hl, rfl, rfl, hx, hr⟩ := withRenewal_twice w order s h
    exact ⟨r, rfl, rfl, hx, hl ▸ happens_none (by simp [hk]) _, .inl hk, hl ▸ hr⟩
  | false =>
    obtain ⟨hx, hcur, hres⟩ := Login.askVersion_upon w order.timeout s
    have hp := (Login.askVersion_built w order.timeout).paced
    have hv : Trace.attempts s.script (Login.askVersion w order.timeout s).events = [] := by
      refine Trace.attempts_of_no_resource _ fun p hp => ?_
      rw [Login.askVersion_purposes w order.timeout s p hp]
      exact Purpose.noConfusion
    have hl := happens_upon .version hk (w.versionRequest s.desk.current order.timeout) s.script
    generalize upon .version (w.versionRequest s.desk.current order.timeout) s.script = e
      at hx hcur hres hl
    cases hr : (Login.askVersion w order.timeout s).result with
    | error fault =>
      rw [dispatch_of_untold hk hr, hv] at h
      cases h
    | ok version =>
      have ha := congrArg Option.isSome hres
      rw [hr, Option.isSome_map] at ha
      rw [dispatch_of_told hk hr] at h ⊢
      rw [Trace.attempts_append_of_paced hp, hv, List.nil_append] at h
      obtain ⟨r, hn, rfl, rfl, hx', hren⟩ := withRenewal_twice w order _ h
      rw [hcur] at hren
      refine ⟨{ r with leading := e }, rfl, rfl, ?_, hl, .inr ha.symm, hren.withLeading e⟩
      rw [Trace.exchanges_append_of_paced hp, hx, hx']
      simp [Replay.word, hn]

/-- And one that is timed. -/
theorem run_twice (h : Trace.attempts s.script (run w order reading s).events = [first, second]) :
    ∃ r : Replay, r.first = first ∧ r.second = second ∧
      Trace.exchanges s.script (run w order reading s).events = r.word ∧
      r.Follows w order s.desk.current (run w order reading s).standing.desk.current := by
  have hx : Trace.exchanges s.script (run w order reading s).events =
      Trace.exchanges s.script (dispatch w order reading s).events := by
    rw [run, Call.always_events,
      Trace.exchanges_append_of_paced (dispatch_built w order reading).paced,
      Trace.exchanges_of_all_silent _ (record_silent _ _), List.append_nil]
  rw [Trace.attempts, hx] at h
  rw [hx, run_standing]
  exact dispatch_twice w order s h

end Dispatch

end StorageGateway
