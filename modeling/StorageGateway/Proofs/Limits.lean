import StorageGateway.Proofs.Laws

/-! The limits of a client reach all of its requests. Whatever a step asks for, and whatever it has
to ask for besides, goes out with the timeout of the step, or else with that of the client, and with
the verification that the client was set up with; so a login or a replay in the middle of a call
waits no longer than the call itself may. -/
namespace StorageGateway

/-- A request that keeps to a timeout and a verification. What a client sends on its own account, to
log in or to learn the version, has neither parameters nor a body. -/
structure Request.Keeps (r : Request) (p : Purpose) (timeout : Binary64) (verify : Verify) :
    Prop where
  timeout_eq : r.timeout = timeout
  verify_eq : r.verify = verify
  streamed : r.streamed = true
  params : p ≠ .resource → r.params = none
  body : p ≠ .resource → r.body = none

namespace Wire

variable {w : Wire} {timeout : Option Binary64} {p : Purpose} {request : Request}

/-- A request keeps to the limits that it was made with. -/
theorem Makes.keeps (h : w.Makes timeout p request) :
    request.Keeps p (timeout.getD w.timeout) w.verify := by
  cases h with
  | login s c h =>
    obtain ⟨headers, url, -, -, rfl⟩ := loginRequest_ok h
    exact ⟨rfl, rfl, rfl, fun _ => rfl, fun _ => rfl⟩
  | version s h =>
    obtain ⟨headers, url, -, -, rfl⟩ := versionRequest_ok h
    exact ⟨rfl, rfl, rfl, fun _ => rfl, fun _ => rfl⟩
  | resource s order ht h =>
    obtain ⟨url, headers, -, -, rfl⟩ := resourceRequest_ok h
    exact ⟨congrArg (Option.getD · w.timeout) ht, rfl, rfl, fun hp => absurd rfl hp,
      fun hp => absurd rfl hp⟩

/-- Nothing is sent but what the client makes. -/
theorem makes_law (w : Wire) (timeout : Option Binary64) : Law w timeout fun _ events _ =>
    ∀ p request, Event.sent p request ∈ events → w.Makes timeout p request where
  remarks := fun h _ _ p request hm => by cases h _ hm
  inquiry := fun {q made _ _} hmade _ _ p request hm => by
    obtain ⟨later, he, hl⟩ := w.inquiryEvents_eq q made _
    rw [he] at hm
    rcases List.mem_cons.mp hm with hm | hm
    · cases hm
      exact hmade
    · cases (hl _ hm).1
  append := fun ha hb p request hm => (List.mem_append.mp hm).elim (ha p request) (hb p request)

end Wire

/-- Requests go unverified only where that was asked for. -/
theorem Settings.verify_of_resolved_off (store : TrustStore) {s : Settings}
    (h : s.resolvedVerify store = .off) : s.verify = .off := by
  unfold resolvedVerify at h
  split at h
  · cases hp : store.path? with
    | none => rw [hp] at h; cases h
    | some path => rw [hp] at h; cases h
  · exact h

/-- In every run each request of a step keeps to the timeout of the step, or without one to that of
the client, and to the verification that was resolved when the client was set up. -/
theorem Client.requests_keep_limits (store : TrustStore) (codecs : Bytes.Codecs)
    (recorder : Option Recorder) (given : Settings) (steps : List (Operation × List Answer)) :
    List.Forall₂ (fun step o => ∀ p request, Event.sent p request ∈ o.events →
        request.Keeps p (step.1.timeout?.getD given.timeout) (given.resolvedVerify store) ∧
        (request.verify = .off → given.verify = .off)) steps
      ((opened store codecs recorder given).run steps) := by
  refine (Law.steps _ (Wire.makes_law _) steps).imp fun _ _ ⟨_, _, _, hmakes⟩ p request hm => ?_
  have hkeeps := (hmakes p request hm).keeps
  refine ⟨hkeeps, fun hoff => Settings.verify_of_resolved_off store ?_⟩
  rw [← hoff]
  exact hkeeps.verify_eq.symm

/-- A token expires in the middle of a call that may not wait at all: neither may the login or the
replay. -/
example :
    let noTime := Binary64.ofRatio false 0 1
    let script : List Answer := [.reply { status := 401 },
      .reply { status := 200, body := Bytes.ofAscii "tok" }, .reply { status := 200 }]
    (Trace.requests (Dispatch.execute Sample.wire { Sample.order with timeout := some noTime }
      (Sample.stale script)).events).map Request.timeout = [noTime, noTime, noTime] := by
  decide +kernel

end StorageGateway
