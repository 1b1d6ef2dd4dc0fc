import StorageGateway.Proofs.Secrecy.Operations

/-! Two runs of a client that differ in secrets alone. At every step they can be told apart by the
value of the authorization headers and by the token that a login returns, and by nothing else. -/
namespace StorageGateway

/-- Clients that differ in secrets alone. -/
structure Client.Alike (c d : Client) : Prop where
  wire : c.wire = d.wire
  session : c.desk.current.Alike d.desk.current
  recorder : c.recorder = d.recorder

/-- What is seen of one operation in two runs. -/
structure Indistinct (op : Operation) (o p : Outcome Json) : Prop where
  result : op.returnsToken = false → o.result = p.result
  fault : o.result.map (fun _ => ()) = p.result.map fun _ => ()
  notices : Trace.notices o.events = Trace.notices p.events
  operations : Trace.operations o.events = Trace.operations p.events
  answered : o.standing.answered = p.standing.answered
  closings : ∀ n, Trace.closings n o.events = Trace.closings n p.events
  disconnections : Trace.disconnections o.events = Trace.disconnections p.events
  requests : (Trace.requests o.events).map Request.masked =
    (Trace.requests p.events).map Request.masked
  session : o.standing.desk.current.Alike p.standing.desk.current

/-- Outcomes that are alike look the same. -/
theorem Outcome.Alike.indistinct {op : Operation} {o p : Outcome Json}
    (h : o.Alike (fun a b => op.returnsToken = false → a = b) p) : Indistinct op o p where
  result hr := by
    cases ho : o.result with
    | ok a =>
      obtain ⟨b, hp, hab⟩ := h.result.of_ok ho
      rw [hp, hab hr]
    | error e => exact (h.result.of_error ho).symm
  fault := by
    cases ho : o.result with
    | ok a =>
      obtain ⟨b, hp, -⟩ := h.result.of_ok ho
      rw [hp]
      rfl
    | error e => rw [h.result.of_error ho]
  notices := by rw [← Trace.notices_masked, h.events, Trace.notices_masked]
  operations := by rw [← Trace.operations_masked, h.events, Trace.operations_masked]
  answered := h.standing.answered
  closings n := by rw [← Trace.closings_masked, h.events, Trace.closings_masked]
  disconnections := by rw [← Trace.disconnections_masked, h.events, Trace.disconnections_masked]
  requests := by rw [← Trace.requests_masked, h.events, Trace.requests_masked]
  session := h.standing.session

/-- Steps of two runs that differ in secrets: the operations in those that they bring, and the
scripts in what the logins of the first run are answered. -/
def StepsAlike (fit : Text → Prop) (c : Client) :
    List (Operation × List Answer) → List (Operation × List Answer) → Prop
  | [], [] => True
  | (op, script) :: steps, (other, script') :: others =>
    op.Alike other ∧
      ScriptsAlike c.wire.codecs fit (Trace.purposes (c.step op script).events) script script' ∧
      StepsAlike fit (c.after (c.step op script)) steps others
  | _, _ => False

namespace Client

variable {c d : Client}

theorem step_alike (h : c.Alike d) {op other : Operation} (ho : op.Alike other)
    {script script' : List Answer}
    (hs : ScriptsAlike c.wire.codecs Text.FitsBytes (Trace.purposes (c.step op script).events)
      script script') :
    (c.step op script).Alike (fun a b => op.returnsToken = false → a = b)
      (d.step other script') := by
  unfold step work at hs ⊢
  rw [← h.wire]
  exact Operation.perform_lockstep c.wire ho _ _ ⟨h.session, h.recorder, rfl⟩ hs

theorem Alike.after (h : c.Alike d) {R : Json → Json → Prop} {o p : Outcome Json}
    (ho : o.Alike R p) : (c.after o).Alike (d.after p) :=
  ⟨h.wire, ho.standing.session, ho.standing.recorder⟩

/-- Each step of two runs of clients that cannot be told apart looks the same. -/
theorem run_indistinct (h : c.Alike d) {steps others : List (Operation × List Answer)}
    (hs : StepsAlike Text.FitsBytes c steps others) :
    steps.length = others.length ∧
    ∀ (i : Nat) (op : Operation) (o p : Outcome Json), steps[i]?.map Prod.fst = some op →
      (c.run steps)[i]? = some o → (d.run others)[i]? = some p → Indistinct op o p := by
  induction steps generalizing c d others with
  | nil =>
    cases others with
    | nil => exact ⟨rfl, fun i op o p h _ _ => by simp at h⟩
    | cons other others => cases hs
  | cons step steps ih =>
    obtain ⟨op, script⟩ := step
    cases others with
    | nil => cases hs
    | cons step others =>
      obtain ⟨other, script'⟩ := step
      obtain ⟨hop, hscript, hrest⟩ := hs
      have ho := step_alike h hop hscript
      obtain ⟨hl, hi⟩ := ih (h.after ho) hrest
      refine ⟨congrArg (· + 1) hl, fun i => ?_⟩
      cases i with
      | zero =>
        intro x o p hx hc hd
        cases hx
        cases hc
        cases hd
        exact ho.indistinct
      | succ i => exact hi i

/-- A login shows its credentials, and any other request the token and the version of its moment. -/
theorem step_shows (c : Client) (op : Operation) (script : List Answer) {before after : List Event}
    {p : Purpose} {request : Request}
    (h : (c.step op script).events = before ++ .sent p request :: after) :
    (p = .login → ∃ k, op.loginCredentials c.desk.current.credentials = some k ∧
      Fields.get? Headers.authorization request.headers =
        (Authorization.basic k.username k.password).toOption) ∧
    (p ≠ .login → ∀ s : Session,
      s.token = (op.sessionAfter c.wire.codecs ⟨c.desk, c.recorder, script, 0⟩ before).token →
      s.version = (op.sessionAfter c.wire.codecs ⟨c.desk, c.recorder, script, 0⟩ before).version →
      s.headers c.wire.defaultHeaders = .ok request.headers) := by
  have hs := Operation.perform_says c.wire op ⟨c.desk, c.recorder, script, 0⟩
  constructor
  · intro hp
    subst hp
    have he : (op.perform c.wire ⟨c.desk, c.recorder, script, 0⟩).events = _ := h
    refine hs.logins ⟨.login, request, (script.drop (Trace.purposes before).length).head?⟩ ?_ rfl
    rw [he, Trace.exchanges_append]
    simp
  · intro hp s ht hv
    rw [Session.headers_congr ht hv]
    exact hs.headers before p request after h hp

/-- Secrets reach nothing but authorization headers. Two runs with the same set-up whose steps
differ in secrets look the same at every step, if what the logins bring can be shown to old
gateways. In every run the header of a login is decided by the credentials, and that of any other
request by the token, the version and the default headers. -/
theorem secrets_reach_authorization_only (store : TrustStore) (codecs : Bytes.Codecs)
    (recorder : Option Recorder) (given : Settings) {steps others : List (Operation × List Answer)}
    (hs : StepsAlike Text.FitsBytes (opened store codecs recorder given) steps others) :
    (steps.length = others.length ∧
      ∀ (i : Nat) (op : Operation) (o p : Outcome Json), steps[i]?.map Prod.fst = some op →
        ((opened store codecs recorder given).run steps)[i]? = some o →
        ((opened store codecs recorder given).run others)[i]? = some p → Indistinct op o p) ∧
    ∀ run op script before p request after,
      let c := (opened store codecs recorder given).leave run
      let s := op.sessionAfter c.wire.codecs ⟨c.desk, c.recorder, script, 0⟩ before
      (c.step op script).events = before ++ .sent p request :: after →
      (p = .login → ∃ k, op.loginCredentials c.desk.current.credentials = some k ∧
        Fields.get? Headers.authorization request.headers =
          (Authorization.basic k.username k.password).toOption) ∧
      (p ≠ .login → ∀ t : Session, t.token = s.token → t.version = s.version →
        t.headers c.wire.defaultHeaders = .ok request.headers) := by
  have hself : (opened store codecs recorder given).Alike (opened store codecs recorder given) :=
    ⟨rfl, .refl _, rfl⟩
  refine ⟨run_indistinct hself hs, ?_⟩
  intro run op script before p request after c s h
  exact step_shows c op script h

def sampleSettings : Settings := { endpoint := "https://gateway", version := some "3.5" }

def sampleLogin (token : Bytes) : Reply := { status := 200, body := token }

/-- A client that logs in and asks for the systems. -/
def sampleSteps (password : Text) (token : Bytes) : List (Operation × List Answer) :=
  [(.authenticate ⟨"admin", password⟩ none, [.reply (sampleLogin token)]),
    (.execute Sample.order, [.reply { status := 200 }])]

/-- Two words as bytes, and one that no byte holds. -/
def sampleToken : Bytes := [0x74, 0x6F, 0x6B]
def otherToken : Bytes := [0x6B, 0x65, 0x79]
def wideToken : Bytes := [0xE4, 0xB8, 0xAD]

theorem sampleSteps_alike {fit : Text → Prop} {token : Bytes}
    (h : (sampleLogin sampleToken).LoginsAlike .listed fit (sampleLogin token)) :
    StepsAlike fit (opened {} .listed none sampleSettings) (sampleSteps "one" sampleToken)
      (sampleSteps "two" token) := by
  let c := opened {} .listed none sampleSettings
  let login : Operation := .authenticate ⟨"admin", "one"⟩ none
  have hl : Trace.purposes (c.step login [.reply (sampleLogin sampleToken)]).events =
      [.login] := by decide +kernel
  have hc : Trace.purposes ((c.after (c.step login [.reply (sampleLogin sampleToken)])).step
      (.execute Sample.order) [.reply { status := 200 }]).events = [.resource] := by decide +kernel
  have hp : Credentials.Alike ⟨"admin", "one"⟩ ⟨"admin", "two"⟩ :=
    ⟨rfl, .inr ⟨by decide, by decide⟩⟩
  refine ⟨.authenticate hp none, ?_, .same _, ?_, trivial⟩
  · rw [hl]
    exact ⟨.inr ⟨rfl, _, _, rfl, rfl, h⟩, trivial⟩
  · rw [hc]
    exact ⟨.inl rfl, trivial⟩

/-- Logins that bring these two words are alike, if the words are fit. -/
theorem sampleLogin_alike {fit : Text → Prop} {token : Bytes} {a b : Text}
    (ha : ((sampleLogin sampleToken).scalar .listed).toOption = some a)
    (hb : ((sampleLogin token).scalar .listed).toOption = some b) (han : a ≠ []) (hbn : b ≠ [])
    (haf : fit a) (hbf : fit b) :
    (sampleLogin sampleToken).LoginsAlike .listed fit (sampleLogin token) := by
  refine ⟨rfl, rfl, a, b, ?_, ?_, han, hbn, haf, hbf⟩
  · cases hs : (sampleLogin sampleToken).scalar .listed with
    | ok x => rw [hs] at ha; exact congrArg _ (Option.some.inj ha)
    | error e => rw [hs] at ha; cases ha
  · cases hs : (sampleLogin token).scalar .listed with
    | ok x => rw [hs] at hb; exact congrArg _ (Option.some.inj hb)
    | error e => rw [hs] at hb; cases hb

theorem secrets_reach_authorization_only_on_two_logins :
    StepsAlike Text.FitsBytes (opened {} .listed none sampleSettings)
      (sampleSteps "one" sampleToken)
      (sampleSteps "two" otherToken) ∧
    ∀ (i : Nat) (op : Operation) (o p : Outcome Json),
      (sampleSteps "one" sampleToken)[i]?.map Prod.fst = some op →
      ((opened {} .listed none sampleSettings).run (sampleSteps "one" sampleToken))[i]? = some o →
      ((opened {} .listed none sampleSettings).run (sampleSteps "two" otherToken))[i]? = some p →
      Indistinct op o p := by
  have hl : (sampleLogin sampleToken).LoginsAlike .listed Text.FitsBytes
      (sampleLogin otherToken) := by
    refine sampleLogin_alike (a := "tok") (b := "key") ?_ ?_ ?_ ?_ ?_ ?_
    · decide +kernel
    · decide +kernel
    · decide
    · decide
    · decide
    · decide
  have hs := sampleSteps_alike hl
  exact ⟨hs, (secrets_reach_authorization_only {} .listed none sampleSettings hs).1.2⟩

/-- A token that no byte holds cannot be shown to an old gateway, so a login that brings one is told
apart by the next call from a login that does not. -/
theorem wide_token_is_told_apart :
    ¬∀ (store : TrustStore) (recorder : Option Recorder) (given : Settings)
      (steps others : List (Operation × List Answer)),
      StepsAlike (fun _ => True) (opened store .listed recorder given) steps others →
      ∀ (i : Nat) (op : Operation) (o p : Outcome Json), steps[i]?.map Prod.fst = some op →
        ((opened store .listed recorder given).run steps)[i]? = some o →
        ((opened store .listed recorder given).run others)[i]? = some p → Indistinct op o p := by
  intro h
  have hl : (sampleLogin sampleToken).LoginsAlike .listed (fun _ => True)
      (sampleLogin wideToken) := by
    refine sampleLogin_alike (a := "tok") (b := "中") ?_ ?_ ?_ ?_ trivial trivial
    · decide +kernel
    · decide +kernel
    · decide
    · decide
  have hi := h {} none sampleSettings _ _ (sampleSteps_alike hl) 1 (.execute Sample.order) _ _ rfl
    rfl rfl
  have hr := congrArg (fun r => r.toOption.isSome) (hi.result rfl)
  revert hr
  decide +kernel

end Client

end StorageGateway
