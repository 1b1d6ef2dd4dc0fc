import StorageGateway.Proofs.Assembly

/-! What calls leave behind: which parts of a session each may have changed, and what its requests
were for. -/
namespace StorageGateway

namespace Login

variable {w : Wire} {c : Credentials} {timeout : Option Binary64} {s : Standing}

/-- Asking for the version changes nothing but the version. -/
theorem askVersion_desk (w : Wire) (timeout : Option Binary64) (s : Standing) :
    (askVersion w timeout s).standing.desk =
      match (askVersion w timeout s).result with
      | .ok version => s.desk.setVersion (some version)
      | .error _ => s.desk := by
  cases hb : w.versionRequest s.desk.current timeout with
  | error fault => rw [askVersion_unsent hb]
  | ok request =>
    cases ha : Answer.settle (Reply.verdict (Reply.scalar w.codecs)) s.script.head? with
    | ok raw => rw [askVersion_told hb ha]
    | error fault => rw [askVersion_failed hb ha]; exact s.next_desk

/-- A login attempt starts a session anew; only a token that is won sets the credentials. -/
theorem exchange_desk (w : Wire) (c : Credentials) (timeout : Option Binary64) (s : Standing) :
    (exchange w c timeout s).standing.desk =
      match (exchange w c timeout s).result with
      | .ok token => s.desk.start.establish token c
      | .error _ => s.desk.start := by
  cases hb : w.loginRequest s.desk.current c timeout with
  | error fault => rw [exchange_unsent hb]
  | ok request =>
    cases ha : Answer.settle (Reply.token w.codecs) s.script.head? with
    | ok token => rw [exchange_won hb ha]
    | error fault => rw [exchange_failed hb ha]

theorem askVersion_purposes (w : Wire) (timeout : Option Binary64) (s : Standing) :
    ∀ p ∈ Trace.purposes (askVersion w timeout s).events, p = .version := by
  intro p hp
  cases hb : w.versionRequest s.desk.current timeout with
  | error fault =>
    rw [askVersion_unsent hb] at hp
    cases hp
  | ok request =>
    cases ha : Answer.settle (Reply.verdict (Reply.scalar w.codecs)) s.script.head? with
    | ok raw =>
      rw [askVersion_told hb ha] at hp
      simpa using hp
    | error fault =>
      rw [askVersion_failed hb ha] at hp
      simpa using hp

theorem exchange_purposes (w : Wire) (c : Credentials) (timeout : Option Binary64) (s : Standing) :
    ∀ p ∈ Trace.purposes (exchange w c timeout s).events, p = .login := by
  intro p hp
  cases hb : w.loginRequest s.desk.current c timeout with
  | error fault =>
    rw [exchange_unsent hb] at hp
    cases hp
  | ok request =>
    cases ha : Answer.settle (Reply.token w.codecs) s.script.head? with
    | ok token =>
      rw [exchange_won hb ha] at hp
      simpa using hp
    | error fault =>
      rw [exchange_failed hb ha] at hp
      simpa using hp

/-- The version is at hand or asked for; no more than the version changes. -/
theorem discoverVersion_keeps (w : Wire) (timeout : Option Binary64) (s : Standing) :
    let o := discoverVersion w false timeout s
    o.standing.desk.current.token = s.desk.current.token ∧
      o.standing.desk.current.credentials = s.desk.current.credentials ∧
      ∀ p ∈ Trace.purposes o.events, p = .version := by
  intro o
  cases hk : s.desk.current.isVersionKnown with
  | true =>
    have ho : o = ⟨.ok (s.desk.current.version.getD []), [], s⟩ := discoverVersion_of_known hk
    rw [ho]
    exact ⟨rfl, rfl, fun p hp => by cases hp⟩
  | false =>
    have ho : o = askVersion w timeout s := discoverVersion_of_unknown false hk
    rw [ho, askVersion_desk]
    refine ⟨?_, ?_, askVersion_purposes w timeout s⟩
    · split <;> rfl
    · split <;> rfl

/-- What a login attempt leaves: the credentials if a token was won, and that token or none. -/
theorem authenticate_leaves (w : Wire) (c : Credentials) (timeout : Option Binary64)
    (s : Standing) :
    let o := authenticate w c timeout s
    let won := (exchange w c timeout s).result
    o.standing.desk.current.token = won.toOption.getD [] ∧
      (o.standing.desk.current.credentials =
        if won.toOption.isSome then some c else s.desk.current.credentials) ∧
      ∀ p ∈ Trace.purposes o.events, p ≠ .resource := by
  intro o won
  have hd := exchange_desk w c timeout s
  have hp : ∀ p ∈ Trace.purposes (exchange w c timeout s).events, p ≠ .resource := by
    intro p hp
    rw [exchange_purposes w c timeout s p hp]
    exact Purpose.noConfusion
  cases hw : (exchange w c timeout s).result with
  | error fault =>
    have ho : o = _ := authenticate_of_error hw
    rw [hw] at hd
    rw [ho]
    exact ⟨by simp [won, hw, hd, Desk.start, Except.toOption],
      by simp [won, hw, hd, Desk.start, Except.toOption], hp⟩
  | ok token =>
    rw [hw] at hd
    have ht : won.toOption = some token := by simp [won, hw, Except.toOption]
    rw [ht]
    cases hk : (exchange w c timeout s).standing.desk.current.isVersionKnown with
    | true =>
      have ho : o = _ := authenticate_of_known hw hk
      rw [ho]
      exact ⟨by simp [hd, Desk.start, Desk.establish, Session.established],
        by simp [hd, Desk.start, Desk.establish, Session.established], hp⟩
    | false =>
      have ho : o = _ := authenticate_of_unknown hw hk
      have hv := askVersion_desk w timeout (exchange w c timeout s).standing
      rw [ho]
      dsimp only
      rw [hv, hd]
      refine ⟨?_, ?_, ?_⟩
      · split <;> rfl
      · split <;> rfl
      · intro p hq
        rw [Trace.purposes_append, List.mem_append] at hq
        rcases hq with hq | hq
        · exact hp p hq
        · rw [askVersion_purposes _ _ _ p hq]
          exact Purpose.noConfusion

/-- The token of a login attempt that succeeds is the one that it has won. -/
theorem exchange_result_of_authenticate {w : Wire} {c : Credentials} {timeout : Option Binary64}
    {s : Standing} {token : Text} (h : (authenticate w c timeout s).result = .ok token) :
    (exchange w c timeout s).result = .ok token := by
  cases hw : (exchange w c timeout s).result with
  | error fault =>
    rw [authenticate_of_error hw] at h
    cases h
  | ok won =>
    cases hk : (exchange w c timeout s).standing.desk.current.isVersionKnown with
    | true =>
      rw [authenticate_of_known hw hk] at h
      exact h
    | false =>
      rw [authenticate_of_unknown hw hk] at h
      cases ha : (askVersion w timeout (exchange w c timeout s).standing).result with
      | error fault =>
        simp only [ha] at h
        cases h
      | ok version =>
        simp only [ha] at h
        cases h
        rfl

end Login

namespace Dispatch

variable {α : Type} (w : Wire) (order : Order) (reading : Reply → Except Fault α) (s : Standing)

/-- An attempt leaves the session as it was. -/
theorem attempt_desk : (attempt w order reading s).standing.desk = s.desk := by
  cases hb : w.resourceRequest s.desk.current order with
  | error fault => rw [attempt_unsent hb]
  | ok request =>
    rw [attempt_sent hb]
    exact s.next_desk

theorem attempt_purposes : Trace.purposes (attempt w order reading s).events =
    if (w.resourceRequest s.desk.current order).toOption.isSome then [.resource] else [] := by
  cases hb : w.resourceRequest s.desk.current order with
  | error fault =>
    rw [attempt_unsent hb]
    rfl
  | ok request =>
    rw [attempt_sent hb, Trace.purposes_noted, Wire.purposes_inquiryEvents]
    rfl

/-- A recorder that does not fail lets every call end as it would without it. -/
theorem record_result {s : Standing} (h : s.recorder ≠ some .failing) (operation : Text) :
    (record operation s).result = .ok () := by
  obtain ⟨desk, recorder, script, answered⟩ := s
  cases recorder with
  | none => rfl
  | some r =>
    cases r with
    | keeping => rfl
    | failing => exact absurd rfl h

theorem record_result_of_failing {s : Standing} (h : s.recorder = some .failing)
    (operation : Text) :
    (record operation s).result = .error (.ofMishap .recorderFailed) := by
  simp only [record, h]

theorem run_result (h : s.recorder ≠ some .failing) :
    (run w order reading s).result = (dispatch w order reading s).result := by
  refine Call.always_result_of_ok (record_result ?_ _)
  rw [(dispatch_built w order reading).recorder_eq s]
  exact h

theorem run_standing :
    (run w order reading s).standing = (dispatch w order reading s).standing := by
  rw [run, Call.always_standing, record_standing]

theorem run_purposes : Trace.purposes (run w order reading s).events =
    Trace.purposes (dispatch w order reading s).events := by
  rw [run, Call.always_events, Trace.purposes_append, record_purposes, List.append_nil]

variable {w order reading s}

/-- Once the version is at hand, the rest of a call is its renewal. -/
theorem dispatch_of_ready {version : Text}
    (h : (Login.discoverVersion w false order.timeout s).result = .ok version) :
    let ready := Login.discoverVersion w false order.timeout s
    let renewed := withRenewal w order.timeout (attempt w order reading) ready.standing
    dispatch w order reading s =
      ⟨renewed.result, ready.events ++ renewed.events, renewed.standing⟩ := by
  intro ready renewed
  cases hk : s.desk.current.isVersionKnown with
  | true =>
    have hr : ready = ⟨.ok (s.desk.current.version.getD []), [], s⟩ :=
      Login.discoverVersion_of_known hk
    have hs : ready.standing = s := by rw [hr]
    have hw : renewed = withRenewal w order.timeout (attempt w order reading) s :=
      congrArg (withRenewal w order.timeout (attempt w order reading)) hs
    rw [dispatch_of_known hk, hw]
    simp [hr]
  | false =>
    have hr : ready = Login.askVersion w order.timeout s :=
      Login.discoverVersion_of_unknown false hk
    have ht : (Login.askVersion w order.timeout s).result = .ok version := by rw [← hr]; exact h
    rw [dispatch_of_told hk ht]
    simp only [renewed, hr]

/-- Without a version nothing is tried. -/
theorem dispatch_of_unready {fault : Fault}
    (h : (Login.discoverVersion w false order.timeout s).result = .error fault) :
    let ready := Login.discoverVersion w false order.timeout s
    dispatch w order reading s = ⟨.error fault, ready.events, ready.standing⟩ := by
  intro ready
  cases hk : s.desk.current.isVersionKnown with
  | true =>
    rw [Login.discoverVersion_of_known hk] at h
    cases h
  | false =>
    have hr : ready = Login.askVersion w order.timeout s :=
      Login.discoverVersion_of_unknown false hk
    rw [dispatch_of_untold hk (by rw [← hr]; exact h), hr]

end Dispatch

namespace Sample

def wire : Wire where
  verify := .on
  timeout := Binary64.ofRatio false 30 1
  defaultHeaders := none
  showHttp := false
  codecs := .listed

def order : Order := { method := "GET", path := "/api/types/System/instances" }

def credentials : Credentials := ⟨"admin", "secret"⟩

/-- A client with a token that is no longer good. -/
def stale (script : List Answer) : Standing where
  desk := { current :=
    { endpoint := "https://gateway", version := some "3.5", token := "old"
      credentials := some credentials } }
  recorder := none
  script
  answered := 0

end Sample

end StorageGateway
