import StorageGateway.Client.Basic
import StorageGateway.Proofs.History.Telling
import StorageGateway.Proofs.Operations

/-! The session of a client as a function of its history. Each operation leaves the session that its
happenings make of the one before, so after any run each part of the session is what the latest
happening that decides about it has made it. -/
namespace StorageGateway

namespace Trace

/-- The words that came for the resource itself. -/
def words (codecs : Bytes.Codecs) (script : List Answer) (events : List Event) : List Text :=
  (exchanges script events).filterMap fun e =>
    if e.purpose = .resource then e.word? codecs else none

variable {codecs : Bytes.Codecs}

theorem words_append (script : List Answer) (a b : List Event) :
    words codecs script (a ++ b) =
      words codecs script a ++ words codecs (script.drop (purposes a).length) b := by
  rw [words, exchanges_append, List.filterMap_append]
  rfl

@[simp] theorem words_noted (script : List Answer) (n : Notice) (events : List Event) :
    words codecs script (.noted n :: events) = words codecs script events := rfl

theorem words_of_no_resource (script : List Answer) {events : List Event}
    (h : ∀ p ∈ purposes events, p ≠ .resource) : words codecs script events = [] := by
  refine List.filterMap_eq_nil_iff.mpr fun e he => ?_
  rw [if_neg (h _ (purpose_mem_of_mem_exchanges he))]

end Trace

namespace Dispatch

variable (w : Wire) (order : Order) (s : Standing)

theorem attempt_words :
    Trace.words w.codecs s.script (attempt w order (Reply.scalar w.codecs) s).events =
    (attempt w order (Reply.scalar w.codecs) s).result.toOption.toList := by
  cases hb : w.resourceRequest s.desk.current order with
  | error fault =>
    rw [attempt_unsent hb]
    rfl
  | ok request =>
    have hw := Exchange.word?_eq w.codecs ⟨.resource, request, s.script.head?⟩
    rw [attempt_sent hb, Trace.words_noted, Trace.words, Wire.exchanges_inquiryEvents]
    simp only [List.filterMap_cons, if_true, hw, List.filterMap_nil]
    cases Answer.settle (Reply.verdict (Reply.scalar w.codecs)) s.script.head? <;> rfl

/-- A renewal brings no word but that of the attempt that has one. -/
theorem withRenewal_words (timeout : Option Binary64) :
    Trace.words w.codecs s.script
        (withRenewal w timeout (attempt w order (Reply.scalar w.codecs)) s).events =
      (withRenewal w timeout (attempt w order (Reply.scalar w.codecs))
        s).result.toOption.toList := by
  have hp := (attempt_built w order (Reply.scalar w.codecs)).paced s
  obtain hw | ⟨fault, c, hr, hu, hc, hw⟩ :=
    withRenewal_cases w timeout (attempt w order (Reply.scalar w.codecs)) s
  · rw [hw]
    exact attempt_words w order s
  · have hf := attempt_words w order s
    rw [hr] at hf
    generalize hs₁ : (attempt w order (Reply.scalar w.codecs) s).standing = s₁ at *
    have hl := (Login.authenticate_leaves w c timeout s₁).2.2
    have hpl := (Login.authenticate_built w c timeout).paced s₁
    obtain ⟨e, he, hw⟩ | ⟨token, ht, hw⟩ := hw
    · rw [hw, Trace.words_append, hf, Trace.words_noted,
        Trace.words_of_no_resource _ hl]
      rfl
    · rw [hw, Trace.words_append, hf, Trace.words_noted, Trace.words_append,
        Trace.words_of_no_resource _ hl, ← hp, ← hpl]
      exact attempt_words w order _

theorem dispatch_words :
    Trace.words w.codecs s.script (dispatch w order (Reply.scalar w.codecs) s).events =
    (dispatch w order (Reply.scalar w.codecs) s).result.toOption.toList := by
  cases hk : s.desk.current.isVersionKnown with
  | true =>
    rw [dispatch_of_known hk]
    exact withRenewal_words w order s order.timeout
  | false =>
    have hv : Trace.words w.codecs s.script (Login.askVersion w order.timeout s).events = [] := by
      refine Trace.words_of_no_resource _ fun p hp => ?_
      rw [Login.askVersion_purposes w order.timeout s p hp]
      exact Purpose.noConfusion
    cases hr : (Login.askVersion w order.timeout s).result with
    | error fault =>
      rw [dispatch_of_untold hk hr, hv]
      rfl
    | ok version =>
      rw [dispatch_of_told hk hr, Trace.words_append, hv,
        ← (Login.askVersion_built w order.timeout).paced s]
      exact withRenewal_words w order _ order.timeout

/-- A call that ends with a word was given that word and no other. -/
theorem executeScalar_words {raw : Text} (h : (executeScalar w order s).result = .ok raw) :
    Trace.words w.codecs s.script (executeScalar w order s).events = [raw] := by
  have hd : (dispatch w order (Reply.scalar w.codecs) s).result = .ok raw := by
    simp only [executeScalar, run, Call.always] at h
    split at h
    · exact h
    · cases h
  have hs (script : List Answer) (left : Standing) :
      Trace.words w.codecs script (record order.operation left).events = [] :=
    Trace.words_of_no_resource script (by rw [record_purposes]; simp)
  rw [executeScalar, run, Call.always_events, Trace.words_append, dispatch_words, hd, hs]
  rfl

end Dispatch

open Call

theorem Login.discoverVersion_tells (w : Wire) (refresh : Bool) (timeout : Option Binary64) :
    Tells w (discoverVersion w refresh timeout) := by
  intro s
  have ha := askVersion_told_of s.desk.current.credentials w timeout s
  cases refresh with
  | true =>
    rw [discoverVersion_refresh]
    exact ha
  | false =>
    cases hk : s.desk.current.isVersionKnown with
    | true =>
      rw [discoverVersion_of_known hk]
      exact .of_idle (by simp) rfl rfl
    | false =>
      rw [discoverVersion_of_unknown false hk]
      exact ha

namespace Collection

variable (w : Wire)

theorem list_tells (c : Collection) : Tells w (list w c) :=
  (Dispatch.run_tells w _ _).bind fun _ => .pure _

theorem follow_tells (rel : Text) (resource : Json) : Tells w (follow w rel resource) :=
  (Tells.ofExcept _).bind fun _ => Dispatch.run_tells w _ _

theorem act_tells (action : Text) (payload resource : Json) :
    Tells w (act w action payload resource) :=
  (Tells.ofExcept _).bind fun _ => (Dispatch.run_tells w _ _).bind fun _ => .pure _

end Collection

/-- The happenings of one operation, of which the outcome is known. The version that a caller asks
for like a resource is told by the word that came for it, if the call ends well. -/
def Operation.happenings (codecs : Bytes.Codecs) (held : Option Credentials)
    (script : List Answer) (o : Outcome Json) : Operation → List Happening
  | authenticate c _ => .loginBegun :: Trace.happenings codecs (some c) script o.events
  | recordVersion raw => [.versionTold raw]
  | setToken token => [.tokenGiven token]
  | useSession s => [.handedOver s]
  | version _ _ => Trace.happenings codecs held script o.events ++
      if o.result.toOption.isSome then (Trace.words codecs script o.events).map .versionTold
      else []
  | _ => Trace.happenings codecs held script o.events

namespace Operation

/-- The credentials that an operation logs in with, if it does. -/
def loginCredentials (held : Option Credentials) : Operation → Option Credentials
  | authenticate c _ => some c
  | _ => held

/-- The session of an operation after its first events. -/
def sessionAfter (codecs : Bytes.Codecs) (s : Standing) (events : List Event) (op : Operation) :
    Session :=
  let held := op.loginCredentials s.desk.current.credentials
  let told := Trace.happenings codecs held s.script events
  match op with
  | authenticate .. => s.desk.current.across (.loginBegun :: told)
  | _ => s.desk.current.across told

/-- What an operation says by its outcome: the session that it leaves, who logs in, and the session
that each other request shows. -/
structure Says (w : Wire) (op : Operation) (s : Standing) (o : Outcome Json) : Prop where
  session : o.standing.desk.current =
    s.desk.current.across (op.happenings w.codecs s.desk.current.credentials s.script o)
  logins : ∀ e ∈ Trace.exchanges s.script o.events, e.purpose = .login →
    ∃ c, op.loginCredentials s.desk.current.credentials = some c ∧ e.Shows c
  headers : ∀ before p request after, o.events = before ++ .sent p request :: after → p ≠ .login →
    (op.sessionAfter w.codecs s before).headers w.defaultHeaders = .ok request.headers

variable {w : Wire}

/-- Whether an operation neither sets a part of the session by itself nor brings credentials. -/
def isPlain : Operation → Bool
  | authenticate .. | version .. | recordVersion _ | setToken _ | useSession _ => false
  | _ => true

/-- A plain operation says what its requests tell. -/
theorem Says.of_told {op : Operation} {s : Standing} {o : Outcome Json}
    (h : Told w s.desk.current.credentials s o.events o.standing) (hp : op.isPlain = true) :
    op.Says w s o := by
  cases op with
  | authenticate => cases hp
  | version => cases hp
  | recordVersion => cases hp
  | setToken => cases hp
  | useSession => cases hp
  | _ => exact ⟨h.session, h.logins, h.headers⟩

/-- An operation that sets the session by itself. -/
theorem Says.of_direct {op : Operation} {s : Standing} {o : Outcome Json}
    (h : o.standing.desk.current =
      s.desk.current.across (op.happenings w.codecs s.desk.current.credentials s.script o))
    (he : Trace.purposes o.events = []) : op.Says w s o where
  session := h
  logins e hm := by
    have hp := Trace.purpose_mem_of_mem_exchanges hm
    rw [he] at hp
    cases hp
  headers before p request after hm _ := by
    rw [hm, Trace.purposes_append, Trace.purposes_cons] at he
    simp [Trace.purpose?] at he

/-- The version of the session or a fresh one: either is told by a word that came for it. -/
theorem version_says (w : Wire) (refresh : Bool) (timeout : Option Binary64) (s : Standing) :
    (version refresh timeout).Says w s (perform w (version refresh timeout) s) := by
  cases hf : (refresh && s.desk.current.isVersionKnown) with
  | false =>
    have ht := Login.discoverVersion_tells w false timeout s
    have hw : Trace.words w.codecs s.script
        (Login.discoverVersion w false timeout s).events = [] := by
      refine Trace.words_of_no_resource _ fun p hp => ?_
      rw [(Login.discoverVersion_keeps w timeout s).2.2 p hp]
      exact Purpose.noConfusion
    simp only [perform, map_apply, currentVersion_of_kept hf]
    exact ⟨by simpa [happenings, hw] using ht.session, ht.logins, ht.headers⟩
  | true =>
    have ht : Told w s.desk.current.credentials s
        (Dispatch.executeScalar w (versionOrder timeout) s).events
        (Dispatch.executeScalar w (versionOrder timeout) s).standing :=
      Dispatch.run_tells w (versionOrder timeout) (Reply.scalar w.codecs) s
    simp only [perform, map_apply, currentVersion_of_fresh hf]
    cases hr : (Dispatch.executeScalar w (versionOrder timeout) s).result with
    | error fault =>
      rw [bind_of_error hr]
      exact ⟨by simpa [happenings, Except.map, Except.toOption] using ht.session, ht.logins,
        ht.headers⟩
    | ok raw =>
      have hw := Dispatch.executeScalar_words w (versionOrder timeout) s hr
      have hn (script : List Answer) :
          Trace.words w.codecs script [.noted (.versionResolved (Version.extract raw) raw)] = [] :=
        rfl
      rw [bind_of_ok hr]
      refine ⟨?_, ?_, ?_⟩
      · have hs := congrArg (Session.withVersion · (some (Version.extract raw))) ht.session
        simpa [happenings, Except.map, Except.toOption, Trace.words_append, hw, hn, Session.happen,
          Trace.happenings_append, Trace.happenings_noted, Desk.setVersion] using hs
      · intro e he
        rw [Login.recordVersion_apply, Trace.exchanges_append, Trace.exchanges_noted,
          Trace.exchanges_nil, List.append_nil] at he
        exact ht.logins e he
      · intro before p request after he hp
        obtain ⟨rest, ha⟩ | ⟨more, -, hb⟩ := Trace.split_append he
        · exact ht.headers before p request rest ha hp
        · cases more with
          | nil => cases hb
          | cons e more => cases more <;> cases hb

/-- Every operation says by its outcome what it has done to the session. -/
theorem perform_says (w : Wire) (op : Operation) (s : Standing) : op.Says w s (perform w op s) := by
  cases op with
  | authenticate c timeout =>
    have h := Login.authenticate_told w c timeout s
    simp only [perform, map_apply]
    refine ⟨h.session, h.logins, fun before p request after he hp => ?_⟩
    exact h.headers (.noted .tokenRejected :: before) p request after (congrArg _ he) hp
  | execute order => exact .of_told (Dispatch.run_tells w order Reply.json s) rfl
  | executeScalar order =>
    exact .of_told ((Dispatch.run_tells w order (Reply.scalar w.codecs)).map Json.str s) rfl
  | version refresh timeout => exact version_says w refresh timeout s
  | discoverVersion refresh timeout =>
    exact .of_told ((Login.discoverVersion_tells w refresh timeout).map Json.str s) rfl
  | recordVersion raw => exact .of_direct rfl rfl
  | setToken token => exact .of_direct rfl rfl
  | useSession given => exact .of_direct rfl rfl
  | setRecorder recorder => exact .of_direct rfl rfl
  | close => exact .of_direct rfl rfl
  | visit => exact .of_direct rfl rfl
  | listSystems => exact .of_told (Collection.list_tells w .systems s) rfl
  | getSystem href => exact .of_told (Dispatch.run_tells w _ Reply.json s) rfl
  | findSystem id name =>
    exact .of_told ((Collection.list_tells w .systems).bind (fun _ => .ofExcept _) s) rfl
  | systemStatistics system => exact .of_told (Collection.follow_tells w _ system s) rfl
  | listVolumes => exact .of_told (Collection.list_tells w .volumes s) rfl
  | getVolume id => exact .of_told (Dispatch.run_tells w _ Reply.json s) rfl
  | findVolumeId name =>
    exact .of_told ((Dispatch.run_tells w _ (Reply.scalar w.codecs)).map Json.str s) rfl
  | createVolume draft =>
    exact .of_told ((Tells.ofExcept _).bind (fun _ => Dispatch.run_tells w _ Reply.json) s) rfl
  | volumeStatistics volume => exact .of_told (Collection.follow_tells w _ volume s) rfl
  | removeVolume volume mode => exact .of_told (Collection.act_tells w _ _ volume s) rfl
  | resizeVolume volume size => exact .of_told (Collection.act_tells w _ _ volume s) rfl

end Operation

namespace Client

/-- The client after some steps. -/
def leave (c : Client) : List (Operation × List Answer) → Client
  | [] => c
  | (op, script) :: steps => (c.after (c.step op script)).leave steps

/-- All that happens to the session of a client in some steps. -/
def history (c : Client) : List (Operation × List Answer) → List Happening
  | [] => []
  | (op, script) :: steps =>
    op.happenings c.wire.codecs c.desk.current.credentials script (c.step op script) ++
      (c.after (c.step op script)).history steps

/-- A run leaves the session that its history makes of the first. -/
theorem leave_session (c : Client) (steps : List (Operation × List Answer)) :
    (c.leave steps).desk.current = c.desk.current.across (c.history steps) := by
  induction steps generalizing c with
  | nil => rfl
  | cons step steps ih =>
    obtain ⟨op, script⟩ := step
    have hs := (Operation.perform_says c.wire op ⟨c.desk, c.recorder, script, 0⟩).session
    rw [leave, ih, history, Session.across_append]
    exact congrArg (Session.across · _) hs

/-- After any steps of a client, each part of its session is what the latest happening that decides
about it has made it, and what it was at the opening if there was none. The login of a further step
shows the credentials that this gives, or the ones that the step brings. -/
theorem session_of_history (store : TrustStore) (codecs : Bytes.Codecs)
    (recorder : Option Recorder) (given : Settings) (steps : List (Operation × List Answer)) :
    let settings := settingsOf given
    let c := opened store codecs recorder given
    let h := c.history steps
    let left := c.leave steps
    left.desk.current.endpoint = Happening.latest Happening.endpoint? settings.endpoint h ∧
    left.desk.current.credentials = Happening.latest Happening.credentials? none h ∧
    left.desk.current.token = Happening.latest Happening.token? [] h ∧
    left.desk.current.version = Happening.latest Happening.version? settings.version h ∧
    ∀ op script, ∀ e ∈ Trace.exchanges script (left.step op script).events, e.purpose = .login →
      ∃ k, op.loginCredentials (Happening.latest Happening.credentials? none h) = some k ∧
        e.Shows k := by
  intro settings c h left
  have hs : left.desk.current = c.desk.current.across h := leave_session c steps
  have latest {β : Type} {field : Session → β} {part : Happening → Option β}
      (hp : ∀ s h, field (Session.happen s h) = (part h).getD (field s)) :
      field left.desk.current = Happening.latest part (field c.desk.current) h := by
    rw [hs]
    exact Session.across_part hp c.desk.current h
  have hc : left.desk.current.credentials = Happening.latest Happening.credentials? none h :=
    latest fun s h => by cases h <;> rfl
  refine ⟨?_, hc, ?_, ?_, ?_⟩
  · exact latest fun s h => by cases h <;> rfl
  · exact latest fun s h => by cases h <;> rfl
  · exact latest fun s h => by cases h <;> rfl
  · intro op script e he hl
    rw [← hc]
    exact (Operation.perform_says left.wire op ⟨left.desk, left.recorder, script, 0⟩).logins e he hl

end Client

end StorageGateway
