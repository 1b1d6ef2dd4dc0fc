import StorageGateway.Proofs.Sharing.Objects
import StorageGateway.Proofs.Versions.Known

/-! What a client does at its desk. All that happens to its session are steps of the desk, a login
attempt among them a start, and the desk is that of a shelf; so what holds of the objects on every
shelf holds in every run of a client, and a session that a caller handed over is out of reach once a
login was tried, until it is handed over again. -/
namespace StorageGateway

namespace Happening

/-- What happens to a session, as a step of the desk where it is kept. -/
def step : Happening → Desk.Step
  | handedOver s => .install s
  | tokenGiven token => .write (.setToken token)
  | loginBegun => .start
  | loggedIn token c => .write (.establish token c)
  | versionTold raw => .write (.setVersion (some (Version.extract raw)))

theorem isHandOver_step (h : Happening) : h.step.isHandOver = h.isHandOver := by
  cases h <;> rfl

end Happening

/-- The desk after some happenings. -/
def Desk.across (d : Desk) (happenings : List Happening) : Desk :=
  d.after (happenings.map Happening.step)

namespace Desk

@[simp] theorem across_nil (d : Desk) : d.across [] = d := rfl

@[simp] theorem across_cons (d : Desk) (h : Happening) (happenings : List Happening) :
    d.across (h :: happenings) = (d.step h.step).across happenings := rfl

@[simp] theorem across_append (d : Desk) (a b : List Happening) :
    d.across (a ++ b) = (d.across a).across b := by
  simp only [across, List.map_append, after_append]

/-- While nothing is handed over, a session that is not in use is seen as it was. -/
theorem given?_across {d : Desk} (hd : d.handed ≠ .inUse) {happenings : List Happening}
    (h : ∀ x ∈ happenings, x.isHandOver = false) :
    (d.across happenings).given? = d.given? := by
  refine given?_after hd fun step hs => ?_
  obtain ⟨x, hx, rfl⟩ := List.mem_map.mp hs
  rw [x.isHandOver_step, h x hx]

end Desk

namespace Login

variable (held : Option Credentials) (w : Wire) (c : Credentials) (timeout : Option Binary64)
  (s : Standing)

theorem askVersion_across : (askVersion w timeout s).standing.desk =
    s.desk.across (Trace.happenings w.codecs held s.script (askVersion w timeout s).events) := by
  cases hb : w.versionRequest s.desk.current timeout with
  | error fault =>
    rw [askVersion_unsent hb, Trace.happenings_nil]
    rfl
  | ok request =>
    have hw := Exchange.word?_eq w.codecs ⟨.version, request, s.script.head?⟩
    cases ha : Answer.settle (Reply.verdict (Reply.scalar w.codecs)) s.script.head? with
    | ok raw =>
      rw [ha] at hw
      rw [askVersion_told hb ha, Trace.happenings_append]
      simp [Exchange.happening?, hw, Trace.happenings_noted, Except.toOption, Happening.step,
        Desk.step, Session.changed, Desk.setVersion]
    | error fault =>
      rw [ha] at hw
      rw [askVersion_failed hb ha]
      simp [Exchange.happening?, hw, Except.toOption]

theorem exchange_across : (exchange w c timeout s).standing.desk =
    s.desk.across (.loginBegun ::
      Trace.happenings w.codecs (some c) s.script (exchange w c timeout s).events) := by
  cases hb : w.loginRequest s.desk.current c timeout with
  | error fault =>
    rw [exchange_unsent hb, Trace.happenings_nil]
    rfl
  | ok request =>
    have ht := Exchange.token?_eq w.codecs ⟨.login, request, s.script.head?⟩
    cases ha : Answer.settle (Reply.token w.codecs) s.script.head? with
    | ok token =>
      rw [ha] at ht
      rw [exchange_won hb ha, Trace.happenings_append]
      simp [Exchange.happening?, ht, Trace.happenings_noted, Except.toOption, Happening.step,
        Desk.step, Session.changed, Desk.establish]
    | error fault =>
      rw [ha] at ht
      rw [exchange_failed hb ha]
      simp [Exchange.happening?, ht, Except.toOption, Happening.step, Desk.step]

theorem authenticate_across : (authenticate w c timeout s).standing.desk =
    s.desk.across (.loginBegun ::
      Trace.happenings w.codecs (some c) s.script (authenticate w c timeout s).events) := by
  have hx := exchange_across w c timeout s
  cases hw : (exchange w c timeout s).result with
  | error fault =>
    rw [authenticate_of_error hw]
    exact hx
  | ok token =>
    cases hk : (exchange w c timeout s).standing.desk.current.isVersionKnown with
    | true =>
      rw [authenticate_of_known hw hk]
      exact hx
    | false =>
      rw [authenticate_of_unknown hw hk, Trace.happenings_append, ← List.cons_append,
        Desk.across_append, ← hx, ← (exchange_built w c timeout).paced s]
      exact askVersion_across (some c) w timeout _

end Login

namespace Call

variable {α β : Type} {w : Wire}

/-- Work that takes the desk through what its events say, with the credentials that it finds. -/
structure Moves (w : Wire) (call : Call α) : Prop where
  tells : Tells w call
  desk : ∀ s, (call s).standing.desk =
    s.desk.across (Trace.happenings w.codecs s.desk.current.credentials s.script (call s).events)

namespace Moves

/-- Work that neither asks the gateway for anything nor touches the desk. -/
theorem of_idle {call : Call α} (ht : Tells w call)
    (he : ∀ s, ∀ e ∈ (call s).events, Trace.IsIdle e)
    (hd : ∀ s, (call s).standing.desk = s.desk) : Moves w call where
  tells := ht
  desk s := by
    rw [hd s, Trace.happenings_of_all_idle _ (he s)]
    rfl

theorem pure (a : α) : Moves w (Pure.pure a : Call α) :=
  .of_idle (.pure a) (fun _ e he => by cases he) fun _ => rfl

theorem ofExcept (r : Except Fault α) : Moves w (ofExcept r) :=
  .of_idle (.ofExcept r) (fun _ e he => by cases he) fun _ => rfl

theorem desk_append {call : Call α} {next : Call β} (h : Moves w call) (hn : Moves w next)
    (s : Standing) :
    (next (call s).standing).standing.desk =
      s.desk.across (Trace.happenings w.codecs s.desk.current.credentials s.script
        ((call s).events ++ (next (call s).standing).events)) := by
  rw [Trace.happenings_append, Desk.across_append, ← h.desk s, ← (h.tells s).script, hn.desk,
    (h.tells s).credentials_eq]

theorem bind {call : Call α} {next : α → Call β} (h : Moves w call) (hn : ∀ a, Moves w (next a)) :
    Moves w (call >>= next) where
  tells := h.tells.bind fun a => (hn a).tells
  desk s := by
    cases hr : (call s).result with
    | ok a =>
      rw [bind_of_ok hr]
      exact h.desk_append (hn a) s
    | error fault =>
      rw [bind_of_error hr]
      exact h.desk s

theorem map {call : Call α} (f : α → β) (h : Moves w call) : Moves w (f <$> call) where
  tells := h.tells.map f
  desk s := by
    rw [map_apply]
    exact h.desk s

theorem always {call : Call α} {last : Call Unit} (h : Moves w call) (hl : Moves w last) :
    Moves w (always call last) where
  tells := h.tells.always hl.tells
  desk s := h.desk_append hl s

end Moves

end Call

open Call

theorem Login.askVersion_moves (w : Wire) (timeout : Option Binary64) :
    Moves w (askVersion w timeout) where
  tells := fun s => askVersion_told_of s.desk.current.credentials w timeout s
  desk s := askVersion_across s.desk.current.credentials w timeout s

theorem Login.discoverVersion_moves (w : Wire) (refresh : Bool) (timeout : Option Binary64) :
    Moves w (discoverVersion w refresh timeout) where
  tells := discoverVersion_tells w refresh timeout
  desk s := by
    have ha := (askVersion_moves w timeout).desk s
    cases refresh with
    | true =>
      rw [discoverVersion_refresh]
      exact ha
    | false =>
      cases hk : s.desk.current.isVersionKnown with
      | true =>
        rw [discoverVersion_of_known hk, Trace.happenings_nil]
        rfl
      | false =>
        rw [discoverVersion_of_unknown false hk]
        exact ha

namespace Dispatch

variable {α : Type} (w : Wire) (order : Order) (reading : Reply → Except Fault α)

theorem attempt_moves : Moves w (attempt w order reading) where
  tells := attempt_tells w order reading
  desk s := by
    rw [attempt_desk]
    cases hb : w.resourceRequest s.desk.current order with
    | error fault =>
      rw [attempt_unsent hb, Trace.happenings_nil]
      rfl
    | ok request =>
      rw [attempt_sent hb, Trace.happenings_noted _ (by simp), Wire.happenings_inquiryEvents]
      rfl

/-- The login of a renewal is a start at the desk that the rejected work left. -/
theorem withRenewal_moves (timeout : Option Binary64) {call : Call α} (h : Moves w call) :
    Moves w (withRenewal w timeout call) where
  tells := withRenewal_tells w timeout h.tells
  desk s := by
    obtain hw | ⟨fault, c, hr, hu, hc, hw⟩ := withRenewal_cases w timeout call s
    · rw [hw]
      exact h.desk s
    · have hlogin := Login.authenticate_across w c timeout (call s).standing
      have htold := Login.authenticate_told w c timeout (call s).standing
      have hpaced := (Login.authenticate_built w c timeout).paced (call s).standing
      have hfirst := (h.tells s).credentials_eq
      have hagain := h.desk (Login.authenticate w c timeout (call s).standing).standing
      rw [← hc] at htold
      rw [htold.credentials_eq] at hagain
      rw [hc] at hfirst hagain
      obtain ⟨e, he, hw⟩ | ⟨token, ht, hw⟩ := hw
      · rw [hw, Trace.happenings_append, Desk.across_append, ← h.desk s, ← (h.tells s).script,
          ← hfirst]
        exact hlogin
      · rw [hw]
        dsimp only
        rw [Trace.happenings_append, Desk.across_append, ← h.desk s, ← (h.tells s).script,
          ← hfirst, Trace.happenings_tokenRejected, Trace.happenings_append, ← List.cons_append,
          Desk.across_append, ← hlogin, ← hpaced]
        exact hagain

theorem dispatch_moves : Moves w (dispatch w order reading) where
  tells := dispatch_tells w order reading
  desk s := by
    have hr := withRenewal_moves w order.timeout (attempt_moves w order reading)
    cases hk : s.desk.current.isVersionKnown with
    | true =>
      rw [dispatch_of_known hk]
      exact hr.desk s
    | false =>
      rw [dispatch_of_unknown hk]
      exact ((Login.askVersion_moves w order.timeout).bind fun _ => hr).desk s

theorem record_moves (operation : Text) : Moves w (record operation) :=
  .of_idle (record_tells w operation) (record_idle operation) fun s => by rw [record_standing]

theorem run_moves : Moves w (run w order reading) :=
  (dispatch_moves w order reading).always (record_moves w _)

end Dispatch

namespace Collection

variable (w : Wire)

theorem list_moves (c : Collection) : Moves w (list w c) :=
  (Dispatch.run_moves w _ _).bind fun _ => .pure _

theorem follow_moves (rel : Text) (resource : Json) : Moves w (follow w rel resource) :=
  (Moves.ofExcept _).bind fun _ => Dispatch.run_moves w _ _

theorem act_moves (action : Text) (payload resource : Json) :
    Moves w (act w action payload resource) :=
  (Moves.ofExcept _).bind fun _ => (Dispatch.run_moves w _ _).bind fun _ => .pure _

end Collection

namespace Operation

theorem version_across (w : Wire) (refresh : Bool) (timeout : Option Binary64) (s : Standing) :
    let o := perform w (version refresh timeout) s
    o.standing.desk = s.desk.across
      ((version refresh timeout).happenings w.codecs s.desk.current.credentials s.script o) := by
  intro o
  cases hf : (refresh && s.desk.current.isVersionKnown) with
  | false =>
    have hd := (Login.discoverVersion_moves w false timeout).desk s
    have hw : Trace.words w.codecs s.script
        (Login.discoverVersion w false timeout s).events = [] := by
      refine Trace.words_of_no_resource _ fun p hp => ?_
      rw [(Login.discoverVersion_keeps w timeout s).2.2 p hp]
      exact Purpose.noConfusion
    simp only [o, perform, map_apply, currentVersion_of_kept hf]
    simpa [happenings, hw] using hd
  | true =>
    have hd : (Dispatch.executeScalar w (versionOrder timeout) s).standing.desk =
        s.desk.across (Trace.happenings w.codecs s.desk.current.credentials s.script
          (Dispatch.executeScalar w (versionOrder timeout) s).events) :=
      (Dispatch.run_moves w (versionOrder timeout) (Reply.scalar w.codecs)).desk s
    simp only [o, perform, map_apply, currentVersion_of_fresh hf]
    cases hr : (Dispatch.executeScalar w (versionOrder timeout) s).result with
    | error fault =>
      rw [bind_of_error hr]
      simpa [happenings, Except.map, Except.toOption] using hd
    | ok raw =>
      have hw := Dispatch.executeScalar_words w (versionOrder timeout) s hr
      have hn (script : List Answer) :
          Trace.words w.codecs script [.noted (.versionResolved (Version.extract raw) raw)] = [] :=
        rfl
      have hkept := congrArg (Desk.setVersion · (some (Version.extract raw))) hd
      rw [bind_of_ok hr]
      simpa [happenings, Except.map, Except.toOption, Trace.words_append, hw, hn, Happening.step,
        Desk.step, Session.changed, Desk.setVersion, Trace.happenings_append,
        Trace.happenings_noted] using hkept

/-- Every operation takes the desk through what happens in it. -/
theorem perform_across (w : Wire) (op : Operation) (s : Standing) :
    let o := perform w op s
    o.standing.desk =
      s.desk.across (op.happenings w.codecs s.desk.current.credentials s.script o) := by
  have hjson (order : Order) := (Dispatch.run_moves w order Reply.json).desk s
  have hscalar (order : Order) :=
    ((Dispatch.run_moves w order (Reply.scalar w.codecs)).map Json.str).desk s
  cases op with
  | authenticate c timeout =>
    simp only [perform, map_apply]
    exact Login.authenticate_across w c timeout s
  | execute order => exact hjson order
  | executeScalar order => exact hscalar order
  | version refresh timeout => exact version_across w refresh timeout s
  | discoverVersion refresh timeout =>
    exact ((Login.discoverVersion_moves w refresh timeout).map Json.str).desk s
  | recordVersion raw => rfl
  | setToken token => rfl
  | useSession given => rfl
  | setRecorder recorder => rfl
  | close => rfl
  | visit => rfl
  | listSystems => exact (Collection.list_moves w .systems).desk s
  | getSystem href => exact hjson _
  | findSystem id name =>
    exact ((Collection.list_moves w .systems).bind fun _ => .ofExcept _).desk s
  | systemStatistics system => exact (Collection.follow_moves w _ system).desk s
  | listVolumes => exact (Collection.list_moves w .volumes).desk s
  | getVolume id => exact hjson _
  | findVolumeId name => exact hscalar _
  | createVolume draft =>
    exact ((Moves.ofExcept _).bind fun _ => Dispatch.run_moves w _ Reply.json).desk s
  | volumeStatistics volume => exact (Collection.follow_moves w _ volume).desk s
  | removeVolume volume mode => exact (Collection.act_moves w _ _ volume).desk s
  | resizeVolume volume size => exact (Collection.act_moves w _ _ volume).desk s

end Operation

/-- Only one operation hands a session over. -/
theorem Operation.isHandOver_happenings_of_ne {op : Operation} (h : ∀ s, op ≠ .useSession s)
    (codecs : Bytes.Codecs) (held : Option Credentials) (script : List Answer)
    (o : Outcome Json) : ∀ x ∈ op.happenings codecs held script o, x.isHandOver = false := by
  cases op with
  | useSession s => exact absurd rfl (h s)
  | recordVersion raw => simp [happenings, Happening.isHandOver]
  | _ => exact isHandOver_happenings rfl codecs held script o

namespace Client

/-- A run takes the desk of a client through its history. -/
theorem leave_across (c : Client) (steps : List (Operation × List Answer)) :
    (c.leave steps).desk = c.desk.across (c.history steps) := by
  induction steps generalizing c with
  | nil => rfl
  | cons step steps ih =>
    obtain ⟨op, script⟩ := step
    have hs := Operation.perform_across c.wire op ⟨c.desk, c.recorder, script, 0⟩
    rw [leave, ih, history, Desk.across_append]
    exact congrArg (Desk.across · _) hs

theorem isHandOver_history {c : Client} {steps : List (Operation × List Answer)}
    (h : ∀ step ∈ steps, ∀ s, step.1 ≠ .useSession s) :
    ∀ x ∈ c.history steps, x.isHandOver = false := by
  induction steps generalizing c with
  | nil => simp [history]
  | cons step steps ih =>
    obtain ⟨op, script⟩ := step
    intro x hx
    rcases List.mem_append.mp hx with hx | hx
    · exact Operation.isHandOver_happenings_of_ne (h _ List.mem_cons_self) _ _ _ _ x hx
    · exact ih (fun step hs => h step (List.mem_cons_of_mem _ hs)) x hx

/-- What was handed over before a login attempt is seen as it was then. -/
theorem given?_of_loginBegun (d : Desk) (earlier : List Happening) {later : List Happening}
    (h : ∀ x ∈ later, x.isHandOver = false) :
    (d.across (earlier ++ .loginBegun :: later)).given? = (d.across earlier).given? := by
  obtain ⟨hgiven, hhanded⟩ := (d.across earlier).given?_start
  rw [Desk.across_append, Desk.across_cons]
  exact (Desk.given?_across hhanded h).trans hgiven

theorem given?_of_authenticate (c : Client) (k : Credentials) (timeout : Option Binary64)
    (script : List Answer) {steps : List (Operation × List Answer)}
    (h : ∀ step ∈ steps, ∀ s, step.1 ≠ .useSession s) :
    ((c.after (c.step (.authenticate k timeout) script)).leave steps).desk.given? =
      c.desk.given? := by
  have hrun := c.leave_across ((.authenticate k timeout, script) :: steps)
  have hlogin : ∀ step ∈ (.authenticate k timeout, script) :: steps, ∀ s,
      step.1 ≠ .useSession s := by
    intro step hs s
    rcases List.mem_cons.mp hs with rfl | hs
    · exact Operation.noConfusion
    · exact h step hs s
  have hlater : ∀ x ∈ c.history ((.authenticate k timeout, script) :: steps),
      x.isHandOver = false := isHandOver_history hlogin
  simp only [leave, history, Operation.happenings, List.cons_append] at hrun hlater
  rw [hrun]
  exact given?_of_loginBegun c.desk [] fun x hx => hlater x (List.mem_cons_of_mem _ hx)

end Client

/-- Steps of a shelf that tell what happens in a run of a client, from the desk of the client on. -/
structure Client.GoesAlong (c : Client) (run : List (Operation × List Answer)) (f : Shelf)
    (steps : List Shelf.Step) : Prop where
  desk : f.desk = c.desk
  told : f.told steps = (c.history run).map Happening.step

namespace Client.GoesAlong

variable {c : Client} {run : List (Operation × List Answer)} {f : Shelf}
  {steps : List Shelf.Step}

theorem leave (h : c.GoesAlong run f steps) : (f.run steps).desk = (c.leave run).desk := by
  rw [f.run_desk, h.desk, h.told, c.leave_across]
  rfl

/-- Where a login attempt begins, the shelf starts anew. -/
theorem start (h : c.GoesAlong run f steps) {earlier later : List Happening}
    (hh : c.history run = earlier ++ .loginBegun :: later) :
    ∃ first rest, steps = first ++ .start :: rest ∧
      (f.run first).desk = c.desk.across earlier := by
  have htold := h.told
  rw [hh, List.map_append, List.map_cons] at htold
  obtain ⟨first, rest, hsteps, hfirst⟩ := Shelf.exists_start_of_told htold
  refine ⟨first, rest, hsteps, ?_⟩
  rw [f.run_desk, h.desk, hfirst]
  rfl

theorem exists_of_run (c : Client) (run : List (Operation × List Answer)) :
    ∃ f steps, c.GoesAlong run f steps := by
  obtain ⟨f, hf⟩ := c.desk.exists_shelf
  exact ⟨f, _, hf, Desk.told_onShelf f _⟩

end Client.GoesAlong

/-- What was handed over is the session in use until a login attempt begins or another session is
handed over. -/
theorem Client.given?_of_handedOver (d : Desk) (earlier : List Happening) (given : Session)
    {later : List Happening} (h : ∀ x ∈ later, x.step.isReplacement = false) :
    let left := d.across (earlier ++ .handedOver given :: later)
    left.given? = some left.current := by
  intro left
  have hkept : left.handed = .inUse := by
    simp only [left, Desk.across_append, Desk.across_cons]
    refine Desk.handed_after fun step hs => ?_
    obtain ⟨x, hx, rfl⟩ := List.mem_map.mp hs
    exact h x hx
  simp [Desk.given?, hkept]

end StorageGateway
