import StorageGateway.Proofs.Desks
import StorageGateway.Proofs.Replies

/-! How a call that meets a failure ends, and what it leaves of the session. -/
namespace StorageGateway

namespace Dispatch

variable {α : Type}

/-- A call that ends with a fault, without a login attempt and with token and credentials as before.
-/
structure Surfaces (o : Outcome α) (fault : Fault) (before : Session) : Prop where
  result : o.result = .error fault
  no_login : Purpose.login ∉ Trace.purposes o.events
  token : o.standing.desk.current.token = before.token
  credentials : o.standing.desk.current.credentials = before.credentials

/-- A call whose renewal with some credentials has ended with a fault of the library's own. The
fault of the call tells what it says and names it as the nearest cause; the token is the one that
the login had won before, if it had. -/
structure RenewalLost (o : Outcome α) (c : Credentials) (e : Fault) (f : Failure)
    (won : Option Text) : Prop where
  result : ∃ g, o.result = .error ⟨.failure g, e.problem :: e.causes⟩ ∧ g.kind = .authentication ∧
    g.status = f.status ∧ g.details = f.details ∧ g.errorCode = none ∧ f.text <:+: g.text
  once : (Trace.purposes o.events).count .resource = 1
  credentials : o.standing.desk.current.credentials = some c
  token : o.standing.desk.current.token = won.getD []

/-- The error of a lost renewal says what the cause says, after words of its own. -/
theorem renewalFailed_text (f : Failure) : f.text <:+: (renewalFailed f).text := by
  have hm : (renewalFailed f).message ≠ Failure.placeholder := by
    intro h
    have ht := congrArg (List.take 7) h
    revert ht
    simp only [renewalFailed]
    rw [List.take_append_of_le_length (by decide)]
    decide
  have htext : (renewalFailed f).text = (renewalFailed f).message := by simp [Failure.text, hm]
  rw [htext]
  exact (List.suffix_append _ _).isInfix

variable {w : Wire} {order : Order} {reading : Reply → Except Fault α} {s : Standing}

/-- A version that cannot be learnt ends the call as it is. -/
theorem surfaces_of_unready {fault : Fault}
    (h : (Login.discoverVersion w false order.timeout s).result = .error fault) :
    Surfaces (dispatch w order reading s) fault s.desk.current := by
  obtain ⟨ht, hc, hp⟩ := Login.discoverVersion_keeps w order.timeout s
  rw [dispatch_of_unready h]
  exact ⟨rfl, fun hl => absurd (hp _ hl) Purpose.noConfusion, ht, hc⟩

/-- An attempt that fails for another reason than its token, or in a session without credentials,
ends the call as it is. -/
theorem surfaces_of_alone {version : Text} {fault : Fault}
    (h : (Login.discoverVersion w false order.timeout s).result = .ok version)
    (hf : (attempt w order reading
      (Login.discoverVersion w false order.timeout s).standing).result = .error fault)
    (hu : isUnauthorized fault = true → s.desk.current.credentials = none) :
    Surfaces (dispatch w order reading s) fault s.desk.current := by
  obtain ⟨ht, hc, hp⟩ := Login.discoverVersion_keeps w order.timeout s
  rw [dispatch_of_ready h]
  generalize Login.discoverVersion w false order.timeout s = ready at *
  have hd := attempt_desk w order reading ready.standing
  have halone : withRenewal w order.timeout (attempt w order reading) ready.standing =
      attempt w order reading ready.standing := by
    refine withRenewal_of_alone fun fault' hf' hu' => ?_
    rw [hf] at hf'
    cases hf'
    rw [hd, hc]
    exact hu hu'
  rw [halone]
  refine ⟨hf, ?_, by rw [hd, ht], by rw [hd, hc]⟩
  intro hl
  rw [Trace.purposes_append, List.mem_append, attempt_purposes] at hl
  rcases hl with hl | hl
  · exact absurd (hp _ hl) Purpose.noConfusion
  · split at hl <;> simp at hl

/-- A token can only be turned down by an attempt that was sent. -/
theorem attempt_purposes_of_unauthorized {fault : Fault}
    (hf : (attempt w order reading s).result = .error fault) (hu : isUnauthorized fault = true) :
    Trace.purposes (attempt w order reading s).events = [.resource] := by
  cases hb : w.resourceRequest s.desk.current order with
  | error e =>
    rw [attempt_unsent hb] at hf
    cases hf
    rw [Wire.resourceRequest_calm hb] at hu
    cases hu
  | ok request =>
    rw [attempt_purposes, hb]
    rfl

/-- A recorder that does not fail lets a fault through. -/
theorem Surfaces.of_dispatch (hrec : s.recorder ≠ some .failing) {fault : Fault} {before : Session}
    (h : Surfaces (dispatch w order reading s) fault before) :
    Surfaces (run w order reading s) fault before where
  result := (run_result w order reading s hrec).trans h.result
  no_login := by
    rw [run_purposes]
    exact h.no_login
  token := by
    rw [run_standing]
    exact h.token
  credentials := by
    rw [run_standing]
    exact h.credentials

section Rejected

variable {version token : Text} {fault e : Fault} {c : Credentials}

/-- A login attempt that fails after a rejected token ends the call, with the resource requested
once; the credentials stay. -/
theorem run_of_lost_login (hrec : s.recorder ≠ some .failing)
    (h : (Login.discoverVersion w false order.timeout s).result = .ok version)
    (hf : (attempt w order reading
      (Login.discoverVersion w false order.timeout s).standing).result = .error fault)
    (hu : isUnauthorized fault = true) (hc : s.desk.current.credentials = some c) :
    let ready := Login.discoverVersion w false order.timeout s
    let rejected := (attempt w order reading ready.standing).standing
    let o := run w order reading s
    (Login.authenticate w c order.timeout rejected).result = .error e →
      o.result = .error (wrapRenewalFault e) ∧
      (Trace.purposes o.events).count .resource = 1 ∧
      o.standing.desk.current.credentials = some c ∧
      o.standing.desk.current.token =
        (Login.exchange w c order.timeout rejected).result.toOption.getD [] := by
  intro ready rejected o hl
  obtain ⟨-, hcr, hp⟩ := Login.discoverVersion_keeps w order.timeout s
  have hd : rejected.desk.current.credentials = some c :=
    (congrArg (·.current.credentials) (attempt_desk w order reading ready.standing)).trans
      (hcr.trans hc)
  obtain ⟨hlt, hlc, hlp⟩ := Login.authenticate_leaves w c order.timeout rejected
  have hw := withRenewal_of_lost hf hu hd hl
  have ho : dispatch w order reading s = _ := dispatch_of_ready h
  rw [hw] at ho
  refine ⟨?_, ?_, ?_, ?_⟩
  · rw [run_result w order reading s hrec, ho]
  · have hv : (Trace.purposes ready.events).count .resource = 0 :=
      List.count_eq_zero.mpr fun hm => absurd (hp _ hm) Purpose.noConfusion
    have hr : Trace.purposes (attempt w order reading ready.standing).events = [.resource] :=
      attempt_purposes_of_unauthorized hf hu
    have ha : (Trace.purposes
        (Login.authenticate w c order.timeout rejected).events).count .resource = 0 :=
      List.count_eq_zero.mpr fun hm => hlp _ hm rfl
    rw [run_purposes, ho]
    simp only [Trace.purposes_append, Trace.purposes_noted, List.count_append]
    rw [hv, hr, ha]
    rfl
  · rw [run_standing, ho]
    refine hlc.trans ?_
    split
    · rfl
    · exact hd
  · rw [run_standing, ho]
    exact hlt

/-- A renewal that succeeds leaves the rest to the second attempt. -/
theorem run_of_renewed (hrec : s.recorder ≠ some .failing)
    (h : (Login.discoverVersion w false order.timeout s).result = .ok version)
    (hf : (attempt w order reading
      (Login.discoverVersion w false order.timeout s).standing).result = .error fault)
    (hu : isUnauthorized fault = true) (hc : s.desk.current.credentials = some c) :
    let ready := Login.discoverVersion w false order.timeout s
    let login := Login.authenticate w c order.timeout
      (attempt w order reading ready.standing).standing
    let o := run w order reading s
    login.result = .ok token →
      o.result = (attempt w order reading login.standing).result ∧
      o.standing.desk.current.credentials = some c ∧ o.standing.desk.current.token = token := by
  intro ready login o hl
  obtain ⟨-, hcr, -⟩ := Login.discoverVersion_keeps w order.timeout s
  have hd : (attempt w order reading ready.standing).standing.desk.current.credentials = some c :=
    (congrArg (·.current.credentials) (attempt_desk w order reading ready.standing)).trans
      (hcr.trans hc)
  obtain ⟨hlt, hlc, -⟩ := Login.authenticate_leaves w c order.timeout
    (attempt w order reading ready.standing).standing
  rw [Login.exchange_result_of_authenticate hl] at hlt hlc
  have hw := withRenewal_of_won hf hu hd hl
  have ho : dispatch w order reading s = _ := dispatch_of_ready h
  rw [hw] at ho
  refine ⟨?_, ?_, ?_⟩
  · rw [run_result w order reading s hrec, ho]
  · rw [run_standing, ho]
    dsimp only
    rw [attempt_desk]
    exact hlc
  · rw [run_standing, ho]
    dsimp only
    rw [attempt_desk]
    exact hlt

end Rejected

/-- What a call that meets a failure surfaces and leaves behind, with a recorder that does not fail.
A version that cannot be learnt surfaces. So does the fault of the first attempt, unless it is a
rejected token in a session with credentials; then the renewal decides: its loss surfaces as a
failed authentication if it is of the library's own kinds and as it is otherwise, and if it succeeds
the end of the second attempt is that of the call. -/
theorem run_surfaces_failure (w : Wire) (order : Order) (reading : Reply → Except Fault α)
    (s : Standing) (hrec : s.recorder ≠ some .failing) :
    let ready := Login.discoverVersion w false order.timeout s
    let first := attempt w order reading ready.standing
    let o := run w order reading s
    (∀ fault, ready.result = .error fault → Surfaces o fault s.desk.current) ∧
    ∀ version fault, ready.result = .ok version → first.result = .error fault →
      (isUnauthorized fault = false → Surfaces o fault s.desk.current) ∧
      (isUnauthorized fault = true → s.desk.current.credentials = none →
        Surfaces o fault s.desk.current) ∧
      ∀ c, isUnauthorized fault = true → s.desk.current.credentials = some c →
        let login := Login.authenticate w c order.timeout first.standing
        let won := (Login.exchange w c order.timeout first.standing).result.toOption
        (∀ e f, login.result = .error e → e.failure? = some f → RenewalLost o c e f won) ∧
        (∀ e, login.result = .error e → e.failure? = none → o.result = .error e ∧
          (Trace.purposes o.events).count .resource = 1 ∧
          o.standing.desk.current.credentials = some c ∧
          o.standing.desk.current.token = won.getD []) ∧
        ∀ token, login.result = .ok token →
          o.result = (attempt w order reading login.standing).result ∧
          o.standing.desk.current.credentials = some c ∧
          o.standing.desk.current.token = token := by
  intro ready first o
  refine ⟨fun fault h => (surfaces_of_unready h).of_dispatch hrec, ?_⟩
  intro version fault hv hf
  refine ⟨fun hu => ?_, fun _ hc => ?_, fun c hu hc => ⟨?_, ?_, ?_⟩⟩
  · refine (surfaces_of_alone hv hf fun hu' => ?_).of_dispatch hrec
    rw [hu] at hu'
    cases hu'
  · exact (surfaces_of_alone hv hf fun _ => hc).of_dispatch hrec
  · intro e f hl he
    obtain ⟨hr, once, hcred, htoken⟩ := run_of_lost_login hrec hv hf hu hc hl
    have hw : wrapRenewalFault e = ⟨.failure (renewalFailed f), e.problem :: e.causes⟩ := by
      simp [wrapRenewalFault, he, Fault.wrap]
    rw [hw] at hr
    exact ⟨⟨renewalFailed f, hr, rfl, rfl, rfl, rfl, renewalFailed_text f⟩, once, hcred, htoken⟩
  · intro e hl he
    obtain ⟨hr, once, hcred, htoken⟩ := run_of_lost_login hrec hv hf hu hc hl
    have hw : wrapRenewalFault e = e := by simp [wrapRenewalFault, he]
    rw [hw] at hr
    exact ⟨hr, once, hcred, htoken⟩
  · intro token hl
    exact run_of_renewed hrec hv hf hu hc hl

/-- Both requests of the sample can be made. -/
theorem sample_requests :
    (∃ request, Sample.wire.resourceRequest (Sample.stale []).desk.current Sample.order =
      .ok request) ∧
    ∃ request, Sample.wire.loginRequest (Sample.stale []).desk.current Sample.credentials none =
      .ok request := by
  have hr : (Sample.wire.resourceRequest (Sample.stale []).desk.current
      Sample.order).toOption.isSome = true := by decide +kernel
  have hl : (Sample.wire.loginRequest (Sample.stale []).desk.current
      Sample.credentials none).toOption.isSome = true := by decide +kernel
  constructor
  · cases h : Sample.wire.resourceRequest (Sample.stale []).desk.current Sample.order with
    | ok request => exact ⟨request, rfl⟩
    | error fault => rw [h] at hr; cases hr
  · cases h : Sample.wire.loginRequest (Sample.stale []).desk.current Sample.credentials none with
    | ok request => exact ⟨request, rfl⟩
    | error fault => rw [h] at hl; cases hl

theorem run_surfaces_failure_on_refused_login :
    let script := [.reply { status := 401 }, .reply { status := 500 }]
    let lost : Failure :=
      { kind := .rejected, message := Reply.unexplained, status := some 500 }
    (Sample.stale script).recorder ≠ some .failing ∧
      RenewalLost (run Sample.wire Sample.order Reply.json (Sample.stale script))
        Sample.credentials (.ofFailure lost) lost none := by
  intro script lost
  have hrec : (Sample.stale script).recorder ≠ some .failing := by decide
  have ht : Sample.order.timeout = none := rfl
  obtain ⟨⟨request, hq⟩, ⟨login, hl⟩⟩ := sample_requests
  have hready : Login.discoverVersion Sample.wire false none (Sample.stale script) =
      ⟨.ok "3.5", [], Sample.stale script⟩ := Login.discoverVersion_of_known rfl
  have hfirst := @attempt_sent _ Sample.wire Sample.order Reply.json (Sample.stale script) request
    hq
  have hwon := @Login.exchange_failed Sample.wire none Sample.credentials
    (Sample.stale script).next login (.ofFailure lost) hl rfl
  have hlogin := Login.authenticate_of_error (congrArg Outcome.result hwon)
  obtain ⟨-, h⟩ := run_surfaces_failure Sample.wire Sample.order Reply.json (Sample.stale script)
    hrec
  obtain ⟨-, -, h⟩ := h "3.5" (.ofFailure
    { kind := .unauthorized, message := Reply.unexplained, status := some 401 })
    (congrArg Outcome.result hready)
    (by rw [ht, hready, hfirst]; rfl)
  have h := (h Sample.credentials rfl rfl).1 (.ofFailure lost) lost
  rw [ht, hready, hfirst, hlogin, hwon] at h
  exact ⟨hrec, h rfl rfl⟩

end Dispatch

end StorageGateway
