import StorageGateway.Proofs.Closings
import StorageGateway.Proofs.Environment.Alike

/-! What a command shows. Choices that are refused lead to no act at all. Otherwise the command logs
in, makes its call and gives the client up; then either the failure of one of the two has been
reported, or what came of them is shown, and never both. -/
namespace StorageGateway

/-- The library's own failure that some work ended with. -/
def Outcome.failure? {α : Type} (o : Outcome α) : Option Failure :=
  match o.result with
  | .ok _ => none
  | .error fault => fault.failure?

/-! Work does not give up its client. -/

namespace Call

theorem send_connected (w : Wire) (p : Purpose) (request : Request) (s : Standing) :
    Event.disconnected ∉ (w.send p request s).events := by
  obtain ⟨desk, recorder, script, answered⟩ := s
  cases script with
  | nil => simp [Wire.send, nextAnswer]
  | cons answer rest =>
    cases answer with
    | unreachable why text => simp [Wire.send, nextAnswer]
    | crash why text => simp [Wire.send, nextAnswer]
    | reply r => cases h : w.showHttp <;>
        simp [Wire.send, nextAnswer, Wire.deliver, Wire.showExchange, h]

theorem record_connected (operation : Text) (s : Standing) :
    Event.disconnected ∉ (Dispatch.record operation s).events := by
  obtain ⟨desk, recorder, script, answered⟩ := s
  cases recorder with
  | none => simp [Dispatch.record]
  | some r => cases r <;> simp [Dispatch.record]

theorem Built.connected {α : Type} {call : Call α} (h : Built call) :
    ∀ s, Event.disconnected ∉ (call s).events := by
  induction h with
  | pure a => exact fun _ => by simp
  | fail fault => exact fun _ => by simp
  | ofExcept r => exact fun _ => by simp
  | close index => exact fun _ => by simp
  | note n => exact fun _ => by simp
  | session => exact fun _ => by simp
  | changeDesk f => exact fun _ => by simp
  | send w p request => exact send_connected w p request
  | record operation => exact record_connected operation
  | @bind _ _ call next _ _ ih ihn =>
    intro s
    cases hr : (call s).result with
    | ok a => rw [bind_of_ok hr]; simp [ih s, ihn a (call s).standing]
    | error fault => rw [bind_of_error hr]; exact ih s
  | @rescue _ call handler _ _ ih ihh =>
    intro s
    cases hr : (call s).result with
    | ok a => rw [rescue_of_ok hr]; exact ih s
    | error fault => rw [rescue_of_error hr]; simp [ih s, ihh fault (call s).standing]
  | mapFault f _ ih => exact ih
  | always _ _ ih ihl => exact fun s => by simp [ih s, ihl]

end Call

open Call

theorem Operation.currentVersion_built (w : Wire) (refresh : Bool) (timeout : Option Binary64) :
    Built (currentVersion w refresh timeout) :=
  Built.session.bind fun _ => .ite
    ((Dispatch.run_built w _ _).bind Login.recordVersion_built)
    (Login.discoverVersion_built w timeout false)

namespace CommandLine

theorem operation_built (w : Wire) (command : Command) (choices : Choices)
    (payload : Option Payload) : Built ((operation command choices payload).perform w) := by
  cases command with
  | version => exact (Operation.currentVersion_built w true none).bind fun _ => .pure _
  | listSystems => exact (Dispatch.run_built w _ _).bind fun _ => .pure _
  | listVolumes => exact (Dispatch.run_built w _ _).bind fun _ => .pure _
  | request => exact Dispatch.run_built w _ _

theorem work_built (w : Wire) (job : Job) (command : Command) (choices : Choices) :
    Built (work w job (operation command choices job.payload)) :=
  (Login.authenticate_built w job.credentials none).bind fun _ => operation_built w ..

/-! Choices that are refused. -/

namespace Choices

variable {choices : Choices} {around : Surroundings}

/-- What can be wrong with choices that were understood. -/
inductive IsRefused (choices : Choices) (around : Surroundings) : Prop where
  | data (t : Text) (e : Json.ReadError) (h : choices.data = some t) (hne : t ≠ [])
      (hr : Json.read t = .error e)
  | username (h : choices.username.getD [] = [])
  | password (h : choices.password.getD [] = [])
  | homeless (t : Text) (fault : Fault) (h : choices.certificate = some t)
      (he : (Path.ofText t).expand around.home? = .error fault)
  | missing (t : Text) (p : Path) (h : choices.certificate = some t)
      (he : (Path.ofText t).expand around.home? = .ok p) (ht : around.isThere p.toText = false)
  | unused (t : Text) (h : choices.certificate = some t) (hi : choices.insecure = true)

theorem payload_error_iff :
    (∃ refusal, choices.payload = .error refusal) ↔
      ∃ t e, choices.data = some t ∧ t ≠ [] ∧ Json.read t = .error e := by
  unfold payload
  cases choices.data with
  | none => simp
  | some t =>
    cases t with
    | nil => simp
    | cons c t => cases hr : Json.read (c :: t) <;> simp [hr]

theorem credentials_error_iff :
    (∃ refusal, choices.credentials = .error refusal) ↔
      choices.username.getD [] = [] ∨ choices.password.getD [] = [] := by
  have filtered (o : Option Text) : o.filter (· ≠ []) = none ↔ o.getD [] = [] := by
    cases o <;> simp
  rw [← filtered, ← filtered]
  unfold credentials
  cases choices.username.filter (· ≠ []) with
  | none => exact iff_of_true ⟨_, rfl⟩ (.inl rfl)
  | some username =>
    cases choices.password.filter (· ≠ []) with
    | none => exact iff_of_true ⟨_, rfl⟩ (.inr rfl)
    | some password => simp

theorem verification_error_iff :
    (∃ refusal, choices.verification around = .error refusal) ↔
      ∃ t, choices.certificate = some t ∧
        ((∃ fault, (Path.ofText t).expand around.home? = .error fault) ∨
          (∃ p, (Path.ofText t).expand around.home? = .ok p ∧ around.isThere p.toText = false) ∨
          choices.insecure = true) := by
  unfold verification certificatePath?
  cases choices.certificate with
  | none => simp [Except.mapError, bind, Except.bind, pure, Except.pure]
  | some t =>
    cases he : (Path.ofText t).expand around.home? with
    | error fault =>
      exact iff_of_true ⟨.fault fault, by simp only [he]; rfl⟩ ⟨t, rfl, .inl ⟨fault, he⟩⟩
    | ok p =>
      simp only [he, Except.map, Except.mapError, bind, Except.bind]
      cases ht : around.isThere p.toText with
      | false => exact iff_of_true ⟨_, rfl⟩ ⟨t, rfl, .inr (.inl ⟨p, he, ht⟩)⟩
      | true =>
        cases choices.insecure with
        | true => exact iff_of_true ⟨_, rfl⟩ ⟨t, rfl, .inr (.inr rfl)⟩
        | false => simp [pure, Except.pure, he, ht]

/-- The three checks, in whatever order they are made. -/
theorem job_error_iff :
    (∃ refusal, choices.job around = .error refusal) ↔ choices.IsRefused around := by
  have parts : (∃ refusal, choices.job around = .error refusal) ↔
      (∃ refusal, choices.payload = .error refusal) ∨
        (∃ refusal, choices.credentials = .error refusal) ∨
        ∃ refusal, choices.verification around = .error refusal := by
    unfold job
    cases choices.payload with
    | error refusal => exact iff_of_true ⟨refusal, rfl⟩ (.inl ⟨refusal, rfl⟩)
    | ok payload =>
      cases choices.credentials with
      | error refusal => exact iff_of_true ⟨refusal, rfl⟩ (.inr (.inl ⟨refusal, rfl⟩))
      | ok credentials =>
        cases choices.verification around with
        | error refusal => exact iff_of_true ⟨refusal, rfl⟩ (.inr (.inr ⟨refusal, rfl⟩))
        | ok verify => simp [bind, Except.bind, pure, Except.pure]
  rw [parts, payload_error_iff, credentials_error_iff, verification_error_iff]
  constructor
  · rintro (⟨t, e, h, hne, hr⟩ | (h | h) | ⟨t, h, ⟨fault, he⟩ | ⟨p, he, ht⟩ | hi⟩)
    · exact .data t e h hne hr
    · exact .username h
    · exact .password h
    · exact .homeless t fault h he
    · exact .missing t p h he ht
    · exact .unused t h hi
  · rintro (⟨t, e, h, hne, hr⟩ | h | h | ⟨t, fault, h, he⟩ | ⟨t, p, h, he, ht⟩ | ⟨t, h, hi⟩)
    · exact .inl ⟨t, e, h, hne, hr⟩
    · exact .inr (.inl (.inl h))
    · exact .inr (.inl (.inr h))
    · exact .inr (.inr ⟨t, h, .inl ⟨fault, he⟩⟩)
    · exact .inr (.inr ⟨t, h, .inr (.inl ⟨p, he, ht⟩)⟩)
    · exact .inr (.inr ⟨t, h, .inr (.inr hi)⟩)

end Choices

/-! The two calls of a command. -/

namespace Job

variable (job : Job) (around : Surroundings) (command : Command) (choices : Choices)

def client : Client := Client.opened around.store around.codecs none job.settings

/-- The call that logs in. -/
def login : Outcome Text :=
  (job.client around).work
    (Login.authenticate (job.client around).wire job.credentials none) around.script

/-- The call that the command is for, from where the login has left off. -/
def called : Outcome Json :=
  (operation command choices job.payload).perform (job.client around).wire
    (job.login around).standing

/-- One of the two calls ends with a fault; the second is made only after the first has
succeeded. -/
inductive Raises : Fault → Prop where
  | login {fault : Fault} (h : (job.login around).result = .error fault) : Raises fault
  | called {token : Text} {fault : Fault} (ht : (job.login around).result = .ok token)
      (h : (job.called around command choices).result = .error fault) : Raises fault

/-- Both calls succeed. -/
def Succeeds : Prop :=
  (∃ token, (job.login around).result = .ok token) ∧
    ∃ value, (job.called around command choices).result = .ok value

/-- The outcome of all the work. -/
def outcome : Outcome Json :=
  (job.client around).work
    (work (job.client around).wire job (operation command choices job.payload)) around.script

variable {job around command choices}

theorem outcome_of_login_error {fault : Fault} (h : (job.login around).result = .error fault) :
    job.outcome around command choices =
      ⟨.error fault, (job.login around).events, (job.login around).standing⟩ :=
  Call.bind_of_error h

theorem outcome_of_login_ok {token : Text} (h : (job.login around).result = .ok token) :
    job.outcome around command choices =
      { job.called around command choices with
        events := (job.login around).events ++ (job.called around command choices).events } :=
  Call.bind_of_ok h

theorem outcome_error_iff (fault : Fault) :
    (job.outcome around command choices).result = .error fault ↔
      job.Raises around command choices fault := by
  cases h : (job.login around).result with
  | error e =>
    rw [outcome_of_login_error h]
    constructor
    · rintro ⟨⟩
      exact .login h
    · rintro (h' | ⟨ht, -⟩)
      · rw [h] at h'; cases h'; rfl
      · rw [h] at ht; cases ht
  | ok token =>
    rw [outcome_of_login_ok h]
    constructor
    · exact .called h
    · rintro (h' | ⟨-, hc⟩)
      · rw [h] at h'; cases h'
      · exact hc

theorem outcome_ok_iff :
    (∃ value, (job.outcome around command choices).result = .ok value) ↔
      job.Succeeds around command choices := by
  cases h : (job.login around).result with
  | error e =>
    rw [outcome_of_login_error h]
    refine iff_of_false (fun ⟨_, hv⟩ => by cases hv) ?_
    rintro ⟨⟨token, ht⟩, -⟩
    rw [h] at ht
    cases ht
  | ok token =>
    rw [outcome_of_login_ok h]
    exact ⟨fun hv => ⟨⟨token, h⟩, hv⟩, And.right⟩

/-- If anything is sent, the first request logs in. -/
theorem outcome_login_first (p : Purpose)
    (h : (Trace.purposes (job.outcome around command choices).events).head? = some p) :
    p = .login := by
  let start : Standing :=
    ⟨(job.client around).desk, (job.client around).recorder, around.script, 0⟩
  cases hb : (job.client around).wire.loginRequest start.desk.current job.credentials none with
  | error fault =>
    obtain ⟨hr, he⟩ := Login.authenticate_unsent hb
    have hr : (job.login around).result = .error fault := hr
    have he : (job.login around).events = [] := he
    rw [outcome_of_login_error hr, he] at h
    cases h
  | ok request =>
    obtain ⟨later, he⟩ := Login.authenticate_sent hb
    have he : (job.login around).events = .sent .login request :: later := he
    have hfirst : ∃ rest, (job.outcome around command choices).events =
        .sent .login request :: rest := by
      cases hr : (job.login around).result with
      | error fault => exact ⟨later, by rw [outcome_of_login_error hr, he]⟩
      | ok token => exact ⟨_, by rw [outcome_of_login_ok hr, he]; rfl⟩
    obtain ⟨rest, hfirst⟩ := hfirst
    rw [hfirst, Trace.purposes_cons] at h
    cases h
    rfl

theorem outcome_connected : Event.disconnected ∉ (job.outcome around command choices).events :=
  (work_built _ job command choices).connected _

end Job

/-! What is shown. -/

/-- Whether an act is seen outside. -/
def Act.isSeen : Act → Bool
  | .did _ => false
  | .printed _ | .drawn _ | .reported _ => true

/-- Whether an act shows a result. -/
def Act.isResult : Act → Bool
  | .printed _ | .drawn _ => true
  | .did _ | .reported _ => false

/-- A run that shows one failure and nothing else. Its text is shown as a terminal without colours
shows it, after the status if the gateway itself answered with the error. -/
structure Run.Reports (r : Run) (f : Failure) : Prop where
  exit : r.ending.status? = some 1
  output : r.standardOutput = []
  tables : r.tables = []
  once : ∃ text, r.acts.filter Act.isSeen = [.reported text]
  named : ∀ n, f.kind.isRejection = true → f.status = some n → r.standardError =
    "Request failed (status " ++ Decimal.integer n ++ "): " ++ f.text.unstyled ++ "\n"
  unnamed : f.kind.isRejection = false ∨ f.status = none →
    r.standardError = "Request failed: " ++ f.text.unstyled ++ "\n"

end CommandLine

theorem Text.unstyled_append {p : Text} (h : escapeControl ∉ p) (t : Text) :
    unstyled (p ++ t) = p ++ unstyled t := by
  unfold unstyled
  induction p with
  | nil => rfl
  | cons c p ih =>
    simp only [List.mem_cons, not_or] at h
    rw [List.cons_append, List.cons_append, ← ih h.2]
    simp [unstyledAfter, stylingLength?_eq_none (Ne.symm h.1)]

theorem Decimal.escapeControl_not_mem_integer (i : Int) : Text.escapeControl ∉ integer i := by
  intro h
  have hsign : Text.escapeControl ∉ sign (i < 0) := by
    unfold sign
    split <;> decide
  rcases List.mem_append.mp h with h | h
  · exact hsign h
  · exact absurd (isDigit_of_mem_natural h) (by decide)

namespace CommandLine

theorem line_report_named {f : Failure} {n : Int} (hk : f.kind.isRejection = true)
    (hs : f.status = some n) : line (report f) =
      "Request failed (status " ++ Decimal.integer n ++ "): " ++ f.text.unstyled ++ "\n" := by
  have hplain : Text.escapeControl ∉
      Text.ofString "Request failed (status " ++ Decimal.integer n ++ Text.ofString "): " := by
    have hi := Decimal.escapeControl_not_mem_integer n
    simp only [List.mem_append, not_or]
    exact ⟨⟨by decide, hi⟩, by decide⟩
  simp only [line, report, hk, hs]
  rw [Text.unstyled_append hplain]
  rfl

theorem line_report_unnamed {f : Failure} (h : f.kind.isRejection = false ∨ f.status = none) :
    line (report f) = "Request failed: " ++ f.text.unstyled ++ "\n" := by
  have hplain : Text.escapeControl ∉ Text.ofString "Request failed: " := by decide
  have hr : report f = Text.ofString "Request failed: " ++ f.text := by
    unfold report
    split
    · rename_i hk hs
      rcases h with h | h
      · rw [hk] at h; cases h
      · rw [hs] at h; cases h
    · rfl
  rw [line, hr, Text.unstyled_append hplain]
  rfl

/-- A run whose only act to be seen is the report of a failure. -/
theorem reports_of_acts {r : Run} {f : Failure} (hend : r.ending = .failed)
    (events after : List Event)
    (h : r.acts = events.map .did ++ .reported (line (report f)) :: after.map .did) :
    r.Reports f := by
  have silent (events : List Event) : events.flatMap (fun _ => ([] : Text)) = [] :=
    List.flatMap_eq_nil_iff.mpr fun _ _ => rfl
  have herror : r.standardError = line (report f) := by
    simp [Run.standardError, h, List.flatMap_map, silent]
  refine
    { exit := by rw [hend]; rfl
      output := by simp [Run.standardOutput, h, List.flatMap_map]
      tables := by simp [Run.tables, h, List.filterMap_map]
      once := ⟨line (report f), by
        simp [h, List.filter_map, List.filter_cons, Function.comp_def, Act.isSeen]⟩
      named := ?_
      unnamed := ?_ }
  · intro n hk hs
    rw [herror, line_report_named hk hs]
  · intro hn
    rw [herror, line_report_unnamed hn]

/-- The run of a command that has started. -/
theorem perform_eq {command : Command} {around : Surroundings} {choices : Choices} {job : Job}
    (h : choices.job around = .ok job) :
    perform around command choices =
      ⟨(conclude command choices (job.outcome around command choices).result).1,
        (Client.openingEvents (Client.settingsOf job.settings) ++
          (job.outcome around command choices).events).map .did ++
          (conclude command choices (job.outcome around command choices).result).2,
        (job.outcome around command choices).standing.answered⟩ := by
  unfold perform
  rw [h]
  rfl

/-- How a command that has started behaves: its first request, the end of its client, and what it
shows of its two calls. A result is shown last, when both have succeeded and the client is gone. -/
structure Concluded (job : Job) (around : Surroundings) (command : Command) (choices : Choices)
    (r : Run) : Prop where
  login_first : ∀ p, (Trace.purposes r.events).head? = some p → p = .login
  closed : Trace.disconnections r.events = 1
  failed : ∀ fault f, job.Raises around command choices fault → fault.failure? = some f →
    r.Reports f
  quiet : job.Succeeds around command choices → r.standardError = []
  inOrder : (∀ a ∈ r.acts, a.isResult = false) ∨
    job.Succeeds around command choices ∧ ∃ events result,
      r.acts = (events ++ [.disconnected]).map .did ++ [result] ∧ result.isResult = true

section Performing

variable {command : Command} {around : Surroundings} {choices : Choices} {job : Job}

theorem perform_events (h : choices.job around = .ok job) :
    (perform around command choices).events =
      Client.openingEvents (Client.settingsOf job.settings) ++
        (job.outcome around command choices).events ++ [.disconnected] :=
  (perform_of_job command h).1

theorem perform_login_first (h : choices.job around = .ok job) (p : Purpose)
    (hp : (Trace.purposes (perform around command choices).events).head? = some p) :
    p = .login := by
  have hopening : Trace.purposes (Client.openingEvents (Client.settingsOf job.settings)) = [] :=
    List.filterMap_eq_nil_iff.mpr fun e he =>
      Trace.purpose?_of_aside (Client.openingEvents_asides _ e he)
  have hend : Trace.purposes [.disconnected] = [] := rfl
  rw [perform_events h, Trace.purposes_append, Trace.purposes_append, hopening, hend,
    List.nil_append, List.append_nil] at hp
  exact Job.outcome_login_first p hp

theorem perform_closed (h : choices.job around = .ok job) :
    Trace.disconnections (perform around command choices).events = 1 := by
  have hopening : Event.disconnected ∉ Client.openingEvents (Client.settingsOf job.settings) := by
    unfold Client.openingEvents
    split <;> simp
  have hwork : Event.disconnected ∉ (job.outcome around command choices).events :=
    Job.outcome_connected
  rw [perform_events h, Trace.disconnections_append, Trace.disconnections_append,
    Trace.disconnections, Trace.disconnections, List.count_eq_zero.mpr hopening,
    List.count_eq_zero.mpr hwork]
  rfl

theorem perform_reports (h : choices.job around = .ok job) {fault : Fault} {f : Failure}
    (hr : job.Raises around command choices fault) (hf : fault.failure? = some f) :
    (perform around command choices).Reports f := by
  have hresult := (Job.outcome_error_iff fault).mpr hr
  rw [perform_eq h, hresult]
  simp only [conclude, hf]
  exact reports_of_acts rfl _ [.disconnected] rfl

/-- What a command without a reported failure shows comes last. -/
theorem perform_shows (h : choices.job around = .ok job) {value : Json}
    (hv : (job.outcome around command choices).result = .ok value) :
    ∃ events, (perform around command choices).acts =
      (events ++ [.disconnected]).map .did ++ (shown (display command choices value)).2 := by
  refine ⟨Client.openingEvents (Client.settingsOf job.settings) ++
    (job.outcome around command choices).events, ?_⟩
  rw [perform_eq h, hv]
  simp [conclude]

theorem perform_quiet (h : choices.job around = .ok job)
    (hs : job.Succeeds around command choices) :
    (perform around command choices).standardError = [] := by
  obtain ⟨value, hv⟩ := Job.outcome_ok_iff.mpr hs
  obtain ⟨events, ha⟩ := perform_shows h hv
  rw [Run.standardError, ha]
  refine List.flatMap_eq_nil_iff.mpr fun a hm => ?_
  rcases List.mem_append.mp hm with hm | hm
  · obtain ⟨e, -, rfl⟩ := List.mem_map.mp hm
    rfl
  · unfold shown at hm
    split at hm
    · cases List.mem_singleton.mp hm; rfl
    · cases List.mem_singleton.mp hm; rfl
    · cases hm

theorem perform_inOrder (h : choices.job around = .ok job) :
    (∀ a ∈ (perform around command choices).acts, a.isResult = false) ∨
      job.Succeeds around command choices ∧ ∃ events result,
        (perform around command choices).acts =
          (events ++ [.disconnected]).map .did ++ [result] ∧ result.isResult = true := by
  have silent (events : List Event) : ∀ a ∈ events.map Act.did, a.isResult = false := by
    intro a ha
    obtain ⟨e, -, rfl⟩ := List.mem_map.mp ha
    rfl
  cases hv : (job.outcome around command choices).result with
  | error fault =>
    left
    intro a ha
    rw [perform_eq h, hv] at ha
    rcases List.mem_append.mp ha with ha | ha
    · exact silent _ a ha
    · simp only [conclude] at ha
      split at ha
      · simp only [List.mem_cons, List.not_mem_nil, or_false] at ha
        rcases ha with rfl | rfl <;> rfl
      · cases List.mem_singleton.mp ha
        rfl
  | ok value =>
    obtain ⟨events, ha⟩ := perform_shows h hv
    have hs := Job.outcome_ok_iff.mp ⟨value, hv⟩
    rw [ha]
    unfold shown
    split
    · exact .inr ⟨hs, events, _, rfl, rfl⟩
    · exact .inr ⟨hs, events, _, rfl, rfl⟩
    · rw [List.append_nil]
      exact .inl (silent _)

end Performing

/-- Choices that are refused lead to no act. Otherwise the command starts, and concludes. -/
theorem run_concludes {around : Surroundings} {words : List Text} {command : Command}
    {choices : Choices} (h : understand around.environment words = .ok (command, choices)) :
    (choices.IsRefused around → (run around words).acts = []) ∧
      (¬ choices.IsRefused around → ∃ job, choices.job around = .ok job ∧
        Concluded job around command choices (run around words)) := by
  have hrun : run around words = perform around command choices := by
    unfold run
    rw [h]
  rw [hrun, ← Choices.job_error_iff]
  cases hj : choices.job around with
  | error refusal =>
    refine ⟨fun _ => ?_, fun hn => absurd ⟨refusal, rfl⟩ hn⟩
    unfold perform
    rw [hj]
  | ok job =>
    refine ⟨fun ⟨_, hr⟩ => (by cases hr), fun _ => ⟨job, rfl, ?_⟩⟩
    exact
      { login_first := perform_login_first hj
        closed := perform_closed hj
        failed := fun _ _ => perform_reports hj
        quiet := perform_quiet hj
        inOrder := perform_inOrder hj }

end CommandLine

namespace Sample

/-- A gateway that turns the login down in coloured words. -/
def coloured : CommandLine.Surroundings where
  environment :=
    [("POWERFLEX_ENDPOINT", "https://gateway"), ("POWERFLEX_USERNAME", "admin"),
      ("POWERFLEX_PASSWORD", "secret"), ("POWERFLEX_VERSION", "3.5")]
  store := {}
  codecs := .listed
  isThere := fun _ => false
  home? := fun _ => none
  script := [.reply
    { status := 500
      body := Bytes.ofAscii ("\x7b\"message\": \"\\u001b[31mno\"\x7d" : String) }]

def versionWords : List Text := ["version"]

end Sample

namespace CommandLine

open Sample

theorem exists_coloured : ∃ command choices job,
    understand coloured.environment versionWords = .ok (command, choices) ∧
      choices.job coloured = .ok job := by
  have hok : ((understand coloured.environment versionWords).toOption.bind fun chosen =>
      (chosen.2.job coloured).toOption).isSome = true := by
    decide +kernel
  cases h : understand coloured.environment versionWords with
  | error m => rw [h] at hok; cases hok
  | ok chosen =>
    rw [h] at hok
    cases hj : chosen.2.job coloured with
    | error refusal =>
      simp only [Except.toOption, Option.bind_some, hj] at hok
      cases hok
    | ok job => exact ⟨chosen.1, chosen.2, job, rfl, hj⟩

theorem coloured_concludes : ∃ command choices job,
    understand coloured.environment versionWords = .ok (command, choices) ∧
      ¬choices.IsRefused coloured ∧ choices.job coloured = .ok job ∧
      Concluded job coloured command choices (run coloured versionWords) := by
  obtain ⟨command, choices, made, h, hmade⟩ := exists_coloured
  have hstarts : ¬choices.IsRefused coloured := by
    rw [← Choices.job_error_iff]
    rintro ⟨refusal, hr⟩
    rw [hmade] at hr
    cases hr
  obtain ⟨job, hj, hc⟩ := (run_concludes h).2 hstarts
  exact ⟨command, choices, job, h, hstarts, hj, hc⟩

/-- The colours are not shown, so that what is reported is not the very text of the failure. -/
theorem colours_are_not_reported : ∃ command choices job fault f,
    understand coloured.environment versionWords = .ok (command, choices) ∧
      choices.job coloured = .ok job ∧ job.Raises coloured command choices fault ∧
      fault.failure? = some f ∧ f.kind.isRejection = true ∧ f.status = some 500 ∧
      (run coloured versionWords).standardError ≠
        Text.ofString "Request failed (status 500): " ++ f.text ++ Text.ofString "\n" := by
  have htold : (((understand coloured.environment versionWords).toOption.bind fun chosen =>
      (chosen.2.job coloured).toOption.bind fun job => (job.login coloured).failure?).map
        fun f => (f.kind.isRejection, f.status, f.text)) =
      some (true, some 500, Text.ofString "\x1b[31mno") := by decide +kernel
  have read {ε α : Type} {x : Except ε α} {a : α} (h : x.toOption = some a) : x = .ok a := by
    cases x with
    | ok b => cases h; rfl
    | error e => cases h
  obtain ⟨f, hf, ht⟩ := Option.map_eq_some_iff.mp htold
  obtain ⟨⟨command, choices⟩, hc, hf⟩ := Option.bind_eq_some_iff.mp hf
  obtain ⟨job, hj, hf⟩ := Option.bind_eq_some_iff.mp hf
  simp only [Prod.mk.injEq] at ht
  obtain ⟨hk, hs, htext⟩ := ht
  cases hr : (job.login coloured).result with
  | ok token => rw [Outcome.failure?, hr] at hf; cases hf
  | error fault =>
    rw [Outcome.failure?, hr] at hf
    refine ⟨command, choices, job, fault, f, read hc, read hj, .login hr, hf, hk, hs, ?_⟩
    rw [htext]
    decide +kernel

end CommandLine

end StorageGateway
