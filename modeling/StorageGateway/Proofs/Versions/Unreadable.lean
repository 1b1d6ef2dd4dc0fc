import StorageGateway.Proofs.Versions.Known

/-! Sessions whose version is a text of which no sense can be made. No headers can be made in them,
so all that is ever sent is logins, and since those do not look at the version nothing that a
gateway answers can replace it. -/
namespace StorageGateway

theorem CodePoint.isBlank_of_isDigit {c : CodePoint} (h : c.isDigit = true) :
    c.isBlank = false := by
  have hall : ∀ z ∈ decimalZeros, ∀ d < 10, (ofNat (z + d)).isBlank = false := by decide +kernel
  have hval : ofNat c.val = c := Fin.ext (val_ofNat_of_lt c.isLt)
  have hdigit : ∃ z ∈ decimalZeros, z ≤ c.val ∧ c.val < z + 10 := by
    unfold isDigit digitValue? at h
    split at h
    · split at h
      · rename_i hd
        simp only [isAsciiDigit, Bool.and_eq_true, decide_eq_true_eq] at hd
        exact ⟨0x30, by decide, hd.1, by omega⟩
      · cases h
    · rw [Option.isSome_map] at h
      obtain ⟨z, hz⟩ := Option.isSome_iff_exists.mp h
      have hp := List.find?_some hz
      simp only [Bool.and_eq_true, decide_eq_true_eq] at hp
      exact ⟨z, List.mem_of_find?_eq_some hz, hp⟩
  obtain ⟨z, hz, hle, hlt⟩ := hdigit
  have hb := hall z hz (c.val - z) (by omega)
  rwa [Nat.add_sub_cancel' hle, hval] at hb

namespace Version

/-- Whether a number stands in front of a text, after blanks. -/
def startsWithNumber (t : Text) : Bool := t.trimStart.head?.any CodePoint.isDigit

variable {t : Text}

theorem takeDigits_of_no_number {t : Text} (h : t.head?.any CodePoint.isDigit = false) :
    takeDigits t = ([], t) := by
  cases t with
  | nil => rfl
  | cons c t =>
    have hc : c.isDigit = false := h
    simp [takeDigits, hc]

theorem parse_of_no_number (ht : t ≠ []) (h : startsWithNumber t = false) :
    parse (some t) = .error (.ofFailure (invalid t)) := by
  cases t with
  | nil => exact absurd rfl ht
  | cons c r =>
    unfold parse
    dsimp only
    rw [takeDigits_of_no_number h, if_pos rfl]

/-- A text without a number in front is kept as it is. -/
theorem extract_of_no_number (h : startsWithNumber t = false) : extract t = t := by
  have hd : t.head?.any CodePoint.isDigit = false := by
    cases t with
    | nil => rfl
    | cons c r =>
      cases hc : c.isDigit with
      | false => exact hc
      | true =>
        have hs := Text.trimStart_eq_self (t := r) (CodePoint.isBlank_of_isDigit hc)
        rw [startsWithNumber, hs] at h
        exact absurd h (by simp [hc])
  unfold extract
  rw [takeDigits_of_no_number hd]
  exact if_neg fun hn => hn.1 rfl

end Version

/-- Sessions with this version, of which no sense can be made. -/
structure Session.Unreadable (s : Session) (v : Text) : Prop where
  version_eq : s.version = some v
  no_sense : ∃ fault, Version.parse (some v) = .error fault

namespace Session

variable {s : Session} {v : Text}

theorem unreadable_of_no_number (hv : s.version = some v) (hne : v ≠ [])
    (h : Version.startsWithNumber v = false) : s.Unreadable v :=
  ⟨hv, _, Version.parse_of_no_number hne h⟩

namespace Unreadable

theorem of_version_eq {s t : Session} (h : s.Unreadable v) (ht : t.version = s.version) :
    t.Unreadable v :=
  ⟨ht.trans h.version_eq, h.no_sense⟩

/-- An empty version makes sense, so this one is known. -/
theorem isVersionKnown (h : s.Unreadable v) : s.isVersionKnown = true := by
  obtain ⟨hv, fault, hp⟩ := h
  cases v with
  | nil => cases hp
  | cons c v => rw [Session.isVersionKnown, hv]

theorem headers (h : s.Unreadable v) (defaults : Option Headers) :
    ∃ fault, s.headers defaults = .error fault := by
  obtain ⟨hv, fault, hp⟩ := h
  exact ⟨fault, headers_of_error (by rw [hv]; exact hp)⟩

theorem resourceRequest (h : s.Unreadable v) (w : Wire) (order : Order) :
    ∃ fault, w.resourceRequest s order = .error fault := by
  obtain ⟨fault, hf⟩ := h.headers w.defaultHeaders
  cases hb : w.resourceRequest s order with
  | error e => exact ⟨e, rfl⟩
  | ok request =>
    rw [Wire.headers_of_resourceRequest hb] at hf
    cases hf

theorem versionRequest (h : s.Unreadable v) (w : Wire) (timeout : Option Binary64) :
    ∃ fault, w.versionRequest s timeout = .error fault := by
  obtain ⟨fault, hf⟩ := h.headers w.defaultHeaders
  cases hb : w.versionRequest s timeout with
  | error e => exact ⟨e, rfl⟩
  | ok request =>
    rw [Wire.headers_of_versionRequest hb] at hf
    cases hf

end Unreadable

end Session

section Stuck

variable {α : Type} {w : Wire} {s : Standing} {v : Text}

/-- Asking for a fresh version fails before anything is sent. -/
theorem Login.askVersion_of_unreadable (h : s.desk.current.Unreadable v)
    (timeout : Option Binary64) : ∃ fault, askVersion w timeout s = ⟨.error fault, [], s⟩ := by
  obtain ⟨fault, hf⟩ := h.versionRequest w timeout
  exact ⟨fault, askVersion_unsent hf⟩

/-- So does every call, and it is not tried again since no token was turned down. -/
theorem Dispatch.run_of_unreadable (h : s.desk.current.Unreadable v) (order : Order)
    (reading : Reply → Except Fault α) :
    (∃ fault, (run w order reading s).result = .error fault) ∧
      Trace.purposes (run w order reading s).events = [] ∧
      (run w order reading s).standing = s := by
  obtain ⟨fault, hf⟩ := h.resourceRequest w order
  have ha : attempt w order reading s = ⟨.error fault, [], s⟩ := attempt_unsent hf
  have hd : dispatch w order reading s = ⟨.error fault, [], s⟩ := by
    rw [dispatch_of_known h.isVersionKnown, withRenewal_of_alone, ha]
    intro e he hu
    rw [ha] at he
    cases he
    rw [Wire.resourceRequest_calm hf] at hu
    cases hu
  refine ⟨?_, ?_, ?_⟩
  · simp only [run, Call.always, hd]
    split
    · exact ⟨fault, rfl⟩
    · rename_i e _
      exact ⟨e, rfl⟩
  · rw [run_purposes, hd]
    rfl
  · rw [run_standing, hd]

end Stuck

namespace Operation

open Call

/-- Whether an operation sends requests that show the version. -/
def showsVersion (op : Operation) : Bool := op.isCall || op.refreshes

/-- Whether an operation asks for the version that the session has. -/
def readsVersion : Operation → Bool
  | version refresh _ | discoverVersion refresh _ => !refresh
  | _ => false

/-- What becomes of an operation in a session whose version makes no sense. -/
structure Blocked (op : Operation) (v : Text) (o : Outcome Json) : Prop where
  version : o.standing.desk.current.version = some v
  purposes : ∀ p ∈ Trace.purposes o.events, p = .login
  fails : op.showsVersion = true →
    (∃ fault, o.result = .error fault) ∧ Trace.purposes o.events = []
  reads : op.readsVersion = true → o.result = .ok (.str v)

variable {w : Wire} {op : Operation} {s : Standing} {v : Text}

/-- An operation that fails at once. -/
theorem Blocked.of_failed {o : Outcome Json} (hr : ∃ fault, o.result = .error fault)
    (hp : Trace.purposes o.events = []) (hv : o.standing.desk.current.version = some v)
    (ho : op.readsVersion = false) : op.Blocked v o where
  version := hv
  purposes p hm := by
    rw [hp] at hm
    cases hm
  fails _ := ⟨hr, hp⟩
  reads ht := by
    rw [ho] at ht
    cases ht

/-- An operation that shows no version and sends nothing. -/
theorem Blocked.of_silent {o : Outcome Json} (hs : op.showsVersion = false)
    (hp : Trace.purposes o.events = []) (hv : o.standing.desk.current.version = some v)
    (hr : op.readsVersion = true → o.result = .ok (.str v)) : op.Blocked v o where
  version := hv
  purposes p hm := by
    rw [hp] at hm
    cases hm
  fails ht := by
    rw [hs] at ht
    cases ht
  reads := hr

theorem readsVersion_of_isCall (h : op.isCall = true) : op.readsVersion = false := by
  cases op with
  | version => cases h
  | discoverVersion => cases h
  | _ => rfl

theorem perform_blocked (w : Wire) (ho : op.leavesVersion = true)
    (h : s.desk.current.Unreadable v) : op.Blocked v (perform w op s) := by
  have hk := h.isVersionKnown
  have hv := h.version_eq
  have hkept (timeout : Option Binary64) :
      Login.discoverVersion w false timeout s = ⟨.ok v, [], s⟩ := by
    rw [Login.discoverVersion_of_known hk, hv]
    rfl
  cases hc : op.isCall with
  | true =>
    have hr := readsVersion_of_isCall hc
    have hcome := perform_comesTo w hc s
    generalize perform w op s = o at hcome
    cases hcome with
    | unmade fault => exact .of_failed ⟨fault, rfl⟩ rfl hv hr
    | called order reading further =>
      obtain ⟨⟨fault, hf⟩, hp, hst⟩ := Dispatch.run_of_unreadable (w := w) h order reading
      refine .of_failed ⟨fault, ?_⟩ hp (by rw [hst]; exact hv) hr
      simp only [hf]
      rfl
  | false =>
    cases op with
    | authenticate c timeout =>
      have he : perform w (.authenticate c timeout) s =
          ⟨(Login.exchange w c timeout s).result.map Json.str,
            (Login.exchange w c timeout s).events, (Login.exchange w c timeout s).standing⟩ := by
        rw [perform, map_apply, Login.authenticate_of_version_known hk]
      rw [he]
      exact ⟨(Login.exchange_version w c timeout s).trans hv,
        Login.exchange_purposes w c timeout s, (fun h => by cases h), (fun h => by cases h)⟩
    | version refresh timeout =>
      cases refresh with
      | true =>
        obtain ⟨⟨fault, hr⟩, hp, hst⟩ :=
          Dispatch.run_of_unreadable (w := w) h (versionOrder timeout)
            (Reply.scalar w.codecs)
        have hf : currentVersion w true timeout s =
            ⟨.error fault, (Dispatch.executeScalar w (versionOrder timeout) s).events,
              (Dispatch.executeScalar w (versionOrder timeout) s).standing⟩ := by
          rw [currentVersion_of_fresh (by rw [hk]; rfl)]
          exact bind_of_error hr
        rw [perform, map_apply, hf]
        exact .of_failed ⟨fault, rfl⟩ hp ((congrArg (·.desk.current.version) hst).trans hv) rfl
      | false =>
        rw [perform, map_apply, currentVersion_of_kept rfl, hkept]
        exact .of_silent rfl rfl hv fun _ => rfl
    | discoverVersion refresh timeout =>
      cases refresh with
      | true =>
        obtain ⟨fault, hf⟩ := Login.askVersion_of_unreadable (w := w) h timeout
        rw [perform, map_apply, Login.discoverVersion_refresh, hf]
        exact .of_failed ⟨fault, rfl⟩ rfl hv rfl
      | false =>
        rw [perform, map_apply, hkept]
        exact .of_silent rfl rfl hv fun _ => rfl
    | recordVersion raw => cases ho
    | useSession given => cases ho
    | setToken token => exact .of_silent rfl rfl hv fun h => by cases h
    | setRecorder recorder => exact .of_silent rfl rfl hv fun h => by cases h
    | close => exact .of_silent rfl rfl hv fun h => by cases h
    | visit => exact .of_silent rfl rfl hv fun h => by cases h
    | _ => cases hc

end Operation

/-! How a session comes to its version: a word that comes for it and is not empty is kept. -/

/-- Work after which the version is what any word that came for it has told, if it is not empty. -/
def Call.Lands {α : Type} (codecs : Bytes.Codecs) (call : Call α) : Prop :=
  ∀ s raw, raw ≠ [] → raw ∈ Trace.wordsFor codecs .version s.script (call s).events →
    (call s).standing.desk.current.version = some (Version.extract raw)

namespace Login

variable (w : Wire) (c : Credentials) (timeout : Option Binary64)

/-- The version that is asked for is told by the one word that comes. -/
theorem askVersion_ok_of_word {s : Standing} {raw : Text}
    (h : raw ∈ Trace.wordsFor w.codecs .version s.script (askVersion w timeout s).events) :
    (askVersion w timeout s).result = .ok (Version.extract raw) := by
  cases hb : w.versionRequest s.desk.current timeout with
  | error fault =>
    rw [askVersion_unsent hb] at h
    simp [Trace.wordsFor] at h
  | ok request =>
    have hw := Exchange.word?_eq w.codecs ⟨.version, request, s.script.head?⟩
    cases ha : Answer.settle (Reply.verdict (Reply.scalar w.codecs)) s.script.head? with
    | ok told =>
      rw [askVersion_told hb ha, Trace.wordsFor_append] at h
      simp only [ha, Except.toOption] at hw
      simp [Trace.wordsFor, Exchange.wordFor, hw] at h
      rw [askVersion_told hb ha, h]
    | error fault =>
      rw [askVersion_failed hb ha] at h
      simp only [ha, Except.toOption] at hw
      simp [Trace.wordsFor, Exchange.wordFor, hw] at h

theorem askVersion_lands : Call.Lands w.codecs (askVersion w timeout) := by
  intro s raw hne h
  have hd := askVersion_desk w timeout s
  rw [askVersion_ok_of_word w timeout h] at hd
  rw [hd]
  exact Session.withVersion_extract _ hne

theorem discoverVersion_lands (refresh : Bool) :
    Call.Lands w.codecs (discoverVersion w refresh timeout) := by
  intro s raw hne h
  cases refresh with
  | true =>
    rw [discoverVersion_refresh] at h ⊢
    exact askVersion_lands w timeout s raw hne h
  | false =>
    cases hk : s.desk.current.isVersionKnown with
    | true =>
      rw [discoverVersion_of_known hk] at h
      simp [Trace.wordsFor] at h
    | false =>
      rw [discoverVersion_of_unknown false hk] at h ⊢
      exact askVersion_lands w timeout s raw hne h

theorem exchange_words (s : Standing) :
    Trace.wordsFor w.codecs .version s.script (exchange w c timeout s).events = [] := by
  refine Trace.wordsFor_of_silent fun hm => ?_
  cases exchange_purposes w c timeout s _ hm

/-- A login in which a word comes for the version is one that has succeeded. -/
theorem authenticate_of_word {s : Standing} {raw : Text}
    (h : raw ∈ Trace.wordsFor w.codecs .version s.script (authenticate w c timeout s).events) :
    let o := exchange w c timeout s
    (∃ token, (authenticate w c timeout s).result = .ok token) ∧
      raw ∈ Trace.wordsFor w.codecs .version o.standing.script
        (askVersion w timeout o.standing).events ∧
      (authenticate w c timeout s).standing = (askVersion w timeout o.standing).standing := by
  intro o
  cases hr : (exchange w c timeout s).result with
  | error fault =>
    rw [authenticate_of_error hr, exchange_words] at h
    cases h
  | ok token =>
    cases hk : (exchange w c timeout s).standing.desk.current.isVersionKnown with
    | true =>
      rw [authenticate_of_known hr hk, exchange_words] at h
      cases h
    | false =>
      rw [authenticate_of_unknown hr hk, Trace.wordsFor_append, exchange_words, List.nil_append,
        ← (exchange_built w c timeout).paced s] at h
      rw [authenticate_of_unknown hr hk, askVersion_ok_of_word w timeout h]
      exact ⟨⟨token, rfl⟩, h, rfl⟩

theorem authenticate_lands : Call.Lands w.codecs (authenticate w c timeout) := by
  intro s raw hne h
  obtain ⟨-, hw, hs⟩ := authenticate_of_word w c timeout h
  rw [hs]
  exact askVersion_lands w timeout _ raw hne hw

end Login

namespace Dispatch

variable {α : Type} (w : Wire) (order : Order) (reading : Reply → Except Fault α)

theorem attempt_words_version (codecs : Bytes.Codecs) (s : Standing) (script : List Answer) :
    Trace.wordsFor codecs .version script (attempt w order reading s).events = [] :=
  Trace.wordsFor_of_silent attempt_asks_no_version

theorem withRenewal_lands (timeout : Option Binary64) :
    Call.Lands w.codecs (withRenewal w timeout (attempt w order reading)) := by
  intro s raw hne h
  have hp := (attempt_built w order reading).paced s
  obtain hw | ⟨fault, c, -, -, -, hw⟩ := withRenewal_cases w timeout (attempt w order reading) s
  · rw [hw, attempt_words_version] at h
    cases h
  · generalize (attempt w order reading s).standing = s₁ at hp hw
    have hl := Login.authenticate_lands w c timeout s₁ raw hne
    obtain ⟨e, -, hw⟩ | ⟨token, -, hw⟩ := hw
    · rw [hw, Trace.wordsFor_append, attempt_words_version, List.nil_append, ← hp] at h
      rw [hw]
      exact hl h
    · rw [hw, Trace.wordsFor_append, attempt_words_version, List.nil_append, ← hp] at h
      rw [hw, attempt_desk]
      refine hl ?_
      have hn : Trace.wordsFor w.codecs .version s₁.script
          ((Login.authenticate w c timeout s₁).events ++
            (attempt w order reading (Login.authenticate w c timeout s₁).standing).events) =
          Trace.wordsFor w.codecs .version s₁.script
            (Login.authenticate w c timeout s₁).events := by
        rw [Trace.wordsFor_append, attempt_words_version, List.append_nil]
      rw [← hn]
      exact h

theorem run_lands : Call.Lands w.codecs (run w order reading) := by
  intro s raw hne h
  have hd : raw ∈ Trace.wordsFor w.codecs .version s.script
      (dispatch w order reading s).events := by
    rw [run, Call.always_events, Trace.wordsFor_append, List.mem_append] at h
    refine h.resolve_right fun hm => ?_
    rw [Trace.wordsFor_of_silent (by simp)] at hm
    cases hm
  rw [run_standing]
  cases hk : s.desk.current.isVersionKnown with
  | true =>
    rw [dispatch_of_known hk] at hd ⊢
    exact withRenewal_lands w order reading order.timeout s raw hne hd
  | false =>
    have hp := (Login.askVersion_built w order.timeout).paced s
    have hl := Login.askVersion_lands w order.timeout s raw hne
    cases hr : (Login.askVersion w order.timeout s).result with
    | error fault =>
      rw [dispatch_of_untold hk hr] at hd ⊢
      exact hl hd
    | ok told =>
      rw [dispatch_of_told hk hr] at hd ⊢
      rw [Trace.wordsFor_append, ← hp, List.mem_append] at hd
      rcases hd with hd | hd
      · -- once told, the version stays through the renewal
        have hv := hl hd
        exact (withRenewal_of_version_known (Session.isVersionKnown_of_eq hne hv)
          order.timeout).2.trans hv
      · exact withRenewal_lands w order reading order.timeout _ raw hne hd

end Dispatch

/-- A word that comes for the version in an operation and is not empty is the version after it. -/
theorem Operation.perform_lands (w : Wire) (op : Operation) :
    Call.Lands w.codecs (perform w op) := by
  intro s raw hne h
  cases hc : op.isCall with
  | true =>
    have hcome := perform_comesTo w hc s
    generalize perform w op s = o at hcome h
    cases hcome with
    | unmade fault => simp [Trace.wordsFor] at h
    | called order reading further => exact Dispatch.run_lands w order reading s raw hne h
  | false =>
    cases op with
    | authenticate c timeout =>
      rw [perform, Call.map_apply] at h ⊢
      exact Login.authenticate_lands w c timeout s raw hne h
    | discoverVersion refresh timeout =>
      rw [perform, Call.map_apply] at h ⊢
      exact Login.discoverVersion_lands w timeout refresh s raw hne h
    | version refresh timeout =>
      rw [perform, Call.map_apply] at h ⊢
      cases hf : (refresh && s.desk.current.isVersionKnown) with
      | false =>
        rw [currentVersion_of_kept hf] at h ⊢
        exact Login.discoverVersion_lands w timeout false s raw hne h
      | true =>
        -- a version that is known is asked for like any resource
        have hn : Purpose.version ∉
            Trace.purposes (Dispatch.executeScalar w (versionOrder timeout) s).events :=
          Dispatch.run_asks_no_version (Bool.and_eq_true_iff.mp hf).2
        have hp : Purpose.version ∉ Trace.purposes
            ((Dispatch.executeScalar w (versionOrder timeout) >>=
              Login.recordVersion) s).events := by
          cases hr : (Dispatch.executeScalar w (versionOrder timeout) s).result with
          | error fault => rw [Call.bind_of_error hr]; exact hn
          | ok told =>
            rw [Call.bind_of_ok hr, Login.recordVersion_apply, Trace.purposes_append,
              Trace.purposes_noted, Trace.purposes_nil, List.append_nil]
            exact hn
        rw [currentVersion_of_fresh hf, Trace.wordsFor_of_silent hp] at h
        cases h
    | recordVersion told => cases h
    | setToken token => cases h
    | useSession given => cases h
    | setRecorder recorder => cases h
    | close => cases h
    | visit => cases h
    | _ => cases hc

namespace Client

variable {c : Client} {v : Text}

theorem leave_unreadable (h : c.desk.current.Unreadable v) {steps : List (Operation × List Answer)}
    (ho : ∀ step ∈ steps, step.1.leavesVersion = true) :
    (c.leave steps).desk.current.Unreadable v := by
  induction steps generalizing c with
  | nil => exact h
  | cons step steps ih =>
    obtain ⟨op, script⟩ := step
    have hop : op.leavesVersion = true := ho (op, script) List.mem_cons_self
    have hb := Operation.perform_blocked (s := ⟨c.desk, c.recorder, script, 0⟩) c.wire hop h
    exact ih (h.of_version_eq (hb.version.trans h.version_eq.symm)) fun step hm =>
      ho step (List.mem_cons_of_mem _ hm)

/-- A version of which no sense can be made stays for good, whatever is answered: only a version or
a session that is given by hand takes it away. Until then nothing is sent but logins, whatever would
show the version fails without sending anything, and the version is handed out as it is. A gateway
brings this about by any word for the version that is not empty and has no number in front; the
login that has asked for it succeeds. -/
theorem unreadable_version_stays (c : Client) :
    (∀ v, c.desk.current.Unreadable v → ∀ steps : List (Operation × List Answer),
      (∀ step ∈ steps, step.1.leavesVersion = true) →
      (c.leave steps).desk.current.version = some v ∧
      ∀ (op : Operation) (script : List Answer), op.leavesVersion = true →
        op.Blocked v ((c.leave steps).step op script)) ∧
    ∀ op script, ∀ raw ∈ Trace.wordsFor c.wire.codecs .version script (c.step op script).events,
      raw ≠ [] → Version.startsWithNumber raw = false →
      (c.after (c.step op script)).desk.current.Unreadable raw ∧
      ∀ credentials timeout, op = .authenticate credentials timeout →
        ∃ token, (c.step op script).result = .ok (.str token) := by
  constructor
  · intro v h steps ho
    have hleft := leave_unreadable h ho
    exact ⟨hleft.version_eq, fun op script hop =>
      Operation.perform_blocked (s := ⟨(c.leave steps).desk, (c.leave steps).recorder, script, 0⟩)
        (c.leave steps).wire hop hleft⟩
  · intro op script raw hm hne hn
    have hv := Operation.perform_lands c.wire op ⟨c.desk, c.recorder, script, 0⟩ raw hne hm
    rw [Version.extract_of_no_number hn] at hv
    refine ⟨Session.unreadable_of_no_number hv hne hn, ?_⟩
    rintro credentials timeout rfl
    simp only [step, work, Operation.perform, Call.map_apply] at hm ⊢
    obtain ⟨⟨token, ht⟩, -, -⟩ := Login.authenticate_of_word c.wire credentials timeout
      (s := ⟨c.desk, c.recorder, script, 0⟩) hm
    exact ⟨token, by rw [ht]; rfl⟩

end Client

namespace Sample

/-- A login that wins a token, and then a word for the version without a number in front. -/
def toldBeta : Operation × List Answer :=
  (.authenticate credentials none,
    [.reply { status := 200, body := Bytes.ofAscii "tok" },
      .reply { status := 200, body := Bytes.ofAscii "beta" }])

end Sample

namespace Client

open Sample

theorem unreadable_version_stays_after_told_beta :
    let c := client none
    let stuck := c.after (c.step toldBeta.1 toldBeta.2)
    let call : Operation := .execute order
    let o := (stuck.leave [toldBeta]).step call [.reply { status := 200 }]
    (Text.ofString "beta" ∈
        Trace.wordsFor .listed .version toldBeta.2 (c.step toldBeta.1 toldBeta.2).events ∧
      Text.ofString "beta" ≠ [] ∧ Version.startsWithNumber "beta" = false) ∧
    stuck.desk.current.Unreadable "beta" ∧
    (∃ token, (c.step toldBeta.1 toldBeta.2).result = .ok (.str token)) ∧
    (∀ step ∈ [toldBeta], step.1.leavesVersion = true) ∧ call.leavesVersion = true ∧
    call.showsVersion = true ∧ o.standing.desk.current.version = some (Text.ofString "beta") ∧
    (∃ fault, o.result = .error fault) ∧ Trace.purposes o.events = [] := by
  intro c stuck call o
  have hm : Text.ofString "beta" ∈
      Trace.wordsFor .listed .version toldBeta.2 (c.step toldBeta.1 toldBeta.2).events := by
    decide +kernel
  have hne : Text.ofString "beta" ≠ [] := by decide
  have hn : Version.startsWithNumber (Text.ofString "beta") = false := by decide +kernel
  obtain ⟨hu, ht⟩ := (unreadable_version_stays c).2 toldBeta.1 toldBeta.2 _ hm hne hn
  have ho : ∀ step ∈ [toldBeta], step.1.leavesVersion = true := by decide
  have hb : call.Blocked (Text.ofString "beta") o :=
    ((unreadable_version_stays stuck).1 _ hu [toldBeta] ho).2 call _ rfl
  exact ⟨⟨hm, hne, hn⟩, hu, ht credentials none rfl, ho, rfl, rfl, hb.version, hb.fails rfl⟩

end Client

end StorageGateway
