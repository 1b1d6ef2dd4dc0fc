import StorageGateway.Proofs.History.Sessions

/-! Whether the version of the protocol is known as a client goes on. Only a word that comes for it
can change that, and only an empty one can make a known version unknown; while it is known nothing
asks for it but what wants a fresh one. -/
namespace StorageGateway

namespace Version

/-- Nothing is kept of a version exactly when nothing was given. -/
theorem extract_eq_nil_iff (raw : Text) : extract raw = [] ↔ raw = [] := by
  unfold extract
  dsimp only
  split
  · rename_i h
    constructor
    · intro he
      simp at he
    · rintro rfl
      exact absurd rfl h.1
  · exact Iff.rfl

end Version

namespace Session

/-- A version that was told is kept, unless it was told by an empty word. -/
theorem withVersion_extract (s : Session) {raw : Text} (h : raw ≠ []) :
    (s.withVersion (some (Version.extract raw))).version = some (Version.extract raw) := by
  have he : Version.extract raw ≠ [] := mt (Version.extract_eq_nil_iff raw).mp h
  simp [withVersion, Option.filter, he]

theorem isVersionKnown_of_eq {s : Session} {raw : Text} (h : raw ≠ [])
    (hv : s.version = some (Version.extract raw)) : s.isVersionKnown = true := by
  have he : Version.extract raw ≠ [] := mt (Version.extract_eq_nil_iff raw).mp h
  cases hx : Version.extract raw with
  | nil => exact absurd hx he
  | cons c t => rw [isVersionKnown, hv, hx]

end Session

/-- The word that came, if the request was for this purpose. -/
def Exchange.wordFor (codecs : Bytes.Codecs) (p : Purpose) (e : Exchange) : Option Text :=
  if e.purpose = p then e.word? codecs else none

namespace Trace

/-- The words that came for one purpose. -/
def wordsFor (codecs : Bytes.Codecs) (p : Purpose) (script : List Answer) (events : List Event) :
    List Text :=
  (exchanges script events).filterMap (Exchange.wordFor codecs p)

variable {codecs : Bytes.Codecs}

theorem wordsFor_sent (q : Purpose) (script : List Answer) (p : Purpose) (request : Request)
    (events : List Event) :
    wordsFor codecs q script (.sent p request :: events) =
      (Exchange.wordFor codecs q ⟨p, request, script.head?⟩).toList ++
        wordsFor codecs q script.tail events := by
  unfold wordsFor
  rw [exchanges_sent]
  cases h : Exchange.wordFor codecs q ⟨p, request, script.head?⟩ with
  | none => rw [List.filterMap_cons_none h]; rfl
  | some raw => rw [List.filterMap_cons_some h]; rfl

theorem wordsFor_append (p : Purpose) (script : List Answer) (a b : List Event) :
    wordsFor codecs p script (a ++ b) =
      wordsFor codecs p script a ++ wordsFor codecs p (script.drop (purposes a).length) b := by
  rw [wordsFor, exchanges_append, List.filterMap_append]
  rfl

theorem wordsFor_of_silent {p : Purpose} {script : List Answer} {events : List Event}
    (h : p ∉ purposes events) : wordsFor codecs p script events = [] := by
  refine List.filterMap_eq_nil_iff.mpr fun e he => if_neg ?_
  rintro rfl
  exact h (purpose_mem_of_mem_exchanges he)

end Trace

namespace Happening

/-- The word for a version that was told. -/
def told? : Happening → Option Text
  | versionTold raw => some raw
  | _ => none

def isHandOver : Happening → Bool
  | handedOver _ => true
  | _ => false

/-- A version that is known stays so, and one that is told becomes so, unless it is told by an empty
word. -/
theorem known_across {s : Session} {happenings : List Happening}
    (hh : ∀ h ∈ happenings, h.isHandOver = false)
    (hw : ∀ raw ∈ happenings.filterMap told?, raw ≠ [])
    (hk : s.isVersionKnown = true ∨ happenings.filterMap told? ≠ []) :
    (s.across happenings).isVersionKnown = true := by
  induction happenings generalizing s with
  | nil => simpa using hk
  | cons h happenings ih =>
    have hrest : ∀ h ∈ happenings, h.isHandOver = false := fun x hx =>
      hh x (List.mem_cons_of_mem h hx)
    rw [Session.across_cons]
    cases h with
    | handedOver given => cases hh (.handedOver given) List.mem_cons_self
    | versionTold raw =>
      have hraw : raw ≠ [] := hw raw (by simp [told?])
      have hknown : (s.happen (.versionTold raw)).isVersionKnown = true :=
        Session.isVersionKnown_of_eq hraw (s.withVersion_extract hraw)
      exact ih hrest (fun x hx => hw x (by simp [told?, hx])) (.inl hknown)
    | tokenGiven token => exact ih hrest hw hk
    | loginBegun => exact ih hrest hw hk
    | loggedIn token c => exact ih hrest hw hk

end Happening

namespace Exchange

open Happening

variable (codecs : Bytes.Codecs) (held : Option Credentials) (e : Exchange)

theorem told_happening : (e.happening? codecs held).bind told? = e.wordFor codecs .version := by
  unfold happening? wordFor
  cases e.purpose with
  | resource => rfl
  | version => cases e.word? codecs <;> rfl
  | login =>
    cases e.token? codecs with
    | none => rfl
    | some token => cases held <;> rfl

theorem isHandOver_happening {h : Happening} (hh : e.happening? codecs held = some h) :
    h.isHandOver = false := by
  unfold happening? at hh
  split at hh
  · obtain ⟨token, -, hh⟩ := Option.bind_eq_some_iff.mp hh
    obtain ⟨c, -, rfl⟩ := Option.map_eq_some_iff.mp hh
    rfl
  · obtain ⟨raw, -, rfl⟩ := Option.map_eq_some_iff.mp hh
    rfl
  · cases hh

end Exchange

namespace Trace

open Happening

variable (codecs : Bytes.Codecs) (held : Option Credentials) (script : List Answer)
  (events : List Event)

/-- Of what happens in a call, the versions told are the words that came for the version. -/
theorem told_happenings :
    (happenings codecs held script events).filterMap told? =
      wordsFor codecs .version script events := by
  induction events generalizing script with
  | nil => simp [wordsFor]
  | cons e events ih =>
    obtain he | ⟨p, request, rfl⟩ | rfl := idle_or e
    · rw [happenings_of_idle script he, ih, wordsFor, wordsFor, exchanges_of_silent script he.1]
    · have hx := Exchange.told_happening codecs held ⟨p, request, script.head?⟩
      rw [happenings_sent, List.filterMap_append, ih, wordsFor_sent, ← hx]
      generalize Exchange.happening? codecs held ⟨p, request, script.head?⟩ = happening
      cases happening with
      | none => rfl
      | some h => cases ht : told? h <;> simp [ht]
    · rw [happenings_tokenRejected, List.filterMap_cons_none rfl, ih]
      rfl

/-- No call hands a session over. -/
theorem isHandOver_happenings :
    ∀ h ∈ happenings codecs held script events, h.isHandOver = false := by
  induction events generalizing script with
  | nil => simp
  | cons e events ih =>
    obtain he | ⟨p, request, rfl⟩ | rfl := idle_or e
    · rw [happenings_of_idle script he]
      exact ih script
    · intro h hm
      rw [happenings_sent, List.mem_append, Option.mem_toList] at hm
      rcases hm with hm | hm
      · exact Exchange.isHandOver_happening codecs held _ hm
      · exact ih script.tail h hm
    · intro h hm
      rw [happenings_tokenRejected, List.mem_cons] at hm
      rcases hm with rfl | hm
      · rfl
      · exact ih script h hm

end Trace

namespace Operation

open Call

/-- Whether an operation leaves it to the gateway to tell the version. -/
def leavesVersion : Operation → Bool
  | recordVersion _ | useSession _ => false
  | _ => true

/-- Whether an operation wants a fresh version even when one is known. -/
def refreshes : Operation → Bool
  | version refresh _ | discoverVersion refresh _ => refresh
  | _ => false

/-- The words that came for the version in an operation. One that is after the version itself may
ask for it like a resource. -/
def versionWords (codecs : Bytes.Codecs) (script : List Answer) (events : List Event) :
    Operation → List Text
  | version _ _ =>
    Trace.wordsFor codecs .version script events ++ Trace.words codecs script events
  | _ => Trace.wordsFor codecs .version script events

/-- An operation that leaves the version to the gateway hands no session over. -/
theorem isHandOver_happenings {op : Operation} (ho : op.leavesVersion = true)
    (codecs : Bytes.Codecs) (held : Option Credentials) (script : List Answer) (o : Outcome Json) :
    ∀ h ∈ op.happenings codecs held script o, h.isHandOver = false := by
  have hc := Trace.isHandOver_happenings codecs held script o.events
  cases op with
  | recordVersion raw => cases ho
  | useSession given => cases ho
  | setToken token => simp [happenings, Happening.isHandOver]
  | authenticate c timeout =>
    intro h hm
    rcases List.mem_cons.mp hm with rfl | hm
    · rfl
    · exact Trace.isHandOver_happenings codecs (some c) script o.events h hm
  | version refresh timeout =>
    intro h hm
    rcases List.mem_append.mp hm with hm | hm
    · exact hc h hm
    · split at hm
      · obtain ⟨raw, -, rfl⟩ := List.mem_map.mp hm
        rfl
      · cases hm
  | _ => exact hc

/-- The versions that an operation is told are words that came for it, and if any came then one was
told, unless the version was known and only a fresh one was wanted. -/
theorem told_happenings (w : Wire) {op : Operation} (ho : op.leavesVersion = true) (s : Standing)
    (held : Option Credentials) :
    let o := perform w op s
    let told := (op.happenings w.codecs held s.script o).filterMap Happening.told?
    (∀ raw ∈ told, raw ∈ op.versionWords w.codecs s.script o.events) ∧
      (op.versionWords w.codecs s.script o.events ≠ [] →
        s.desk.current.isVersionKnown = true ∨ told ≠ []) := by
  intro o told
  have hc := Trace.told_happenings w.codecs held s.script o.events
  cases op with
  | recordVersion raw => cases ho
  | useSession given => cases ho
  | setToken token => exact ⟨by simp [told, happenings, Happening.told?], fun h => absurd rfl h⟩
  | authenticate c timeout =>
    have ht : told = versionWords w.codecs s.script o.events (authenticate c timeout) :=
      Trace.told_happenings w.codecs (some c) s.script o.events
    rw [← ht]
    exact ⟨fun _ h => h, .inr⟩
  | version refresh timeout =>
    have ht : told = Trace.wordsFor w.codecs .version s.script o.events ++
        if o.result.toOption.isSome then Trace.words w.codecs s.script o.events else [] := by
      simp only [told, happenings, List.filterMap_append, hc]
      split
      · simp [Happening.told?, List.filterMap_map, Function.comp_def]
      · rfl
    rw [ht]
    constructor
    · intro raw hm
      rcases List.mem_append.mp hm with hm | hm
      · exact List.mem_append_left _ hm
      · split at hm
        · exact List.mem_append_right _ hm
        · cases hm
    · intro hne
      cases hf : (refresh && s.desk.current.isVersionKnown) with
      | true => exact .inl (Bool.and_eq_true_iff.mp hf).2
      | false =>
        have he : o.events = (Login.discoverVersion w false timeout s).events := by
          simp only [o, perform, map_apply, currentVersion_of_kept hf]
        have hw : Trace.words w.codecs s.script o.events = [] := by
          rw [he]
          refine Trace.words_of_no_resource _ fun p hp => ?_
          rw [(Login.discoverVersion_keeps w timeout s).2.2 p hp]
          exact Purpose.noConfusion
        simp only [versionWords, hw, List.append_nil] at hne
        exact .inr (by simp [hne])
  | _ =>
    have ht : told = Trace.wordsFor w.codecs .version s.script o.events := hc
    rw [ht]
    exact ⟨fun _ h => h, .inr⟩

end Operation

/-! While the version is known, only what wants a fresh one asks for it. -/

namespace Login

variable {w : Wire} {c : Credentials} {timeout : Option Binary64} {s : Standing}

/-- A login attempt carries the version over. -/
theorem exchange_version (w : Wire) (c : Credentials) (timeout : Option Binary64) (s : Standing) :
    (exchange w c timeout s).standing.desk.current.version = s.desk.current.version := by
  rw [exchange_desk]
  split <;> rfl

/-- With a version at hand a login attempt is the exchange and no more. -/
theorem authenticate_of_version_known (h : s.desk.current.isVersionKnown = true) :
    authenticate w c timeout s = exchange w c timeout s := by
  have hk : (exchange w c timeout s).standing.desk.current.isVersionKnown = true := by
    unfold Session.isVersionKnown
    rw [exchange_version]
    exact h
  cases hr : (exchange w c timeout s).result with
  | error fault => rw [authenticate_of_error hr, ← hr]
  | ok token => rw [authenticate_of_known hr hk, ← hr]

end Login

namespace Dispatch

variable {α : Type} {w : Wire} {order : Order} {reading : Reply → Except Fault α} {s : Standing}

theorem attempt_asks_no_version :
    .version ∉ Trace.purposes (attempt w order reading s).events := by
  rw [attempt_purposes]
  split <;> simp

/-- With a version at hand an attempt and its renewal ask for none and change none. -/
theorem withRenewal_of_version_known (h : s.desk.current.isVersionKnown = true)
    (timeout : Option Binary64) :
    let o := withRenewal w timeout (attempt w order reading) s
    .version ∉ Trace.purposes o.events ∧
      o.standing.desk.current.version = s.desk.current.version := by
  intro o
  have hd := attempt_desk w order reading s
  obtain hw | ⟨fault, c, -, -, -, hw⟩ := withRenewal_cases w timeout (attempt w order reading) s
  · rw [show o = _ from hw, hd]
    exact ⟨attempt_asks_no_version, rfl⟩
  · have he : Login.authenticate w c timeout (attempt w order reading s).standing =
        Login.exchange w c timeout (attempt w order reading s).standing :=
      Login.authenticate_of_version_known (by rw [hd]; exact h)
    have hl : Purpose.version ∉ Trace.purposes (Login.authenticate w c timeout
        (attempt w order reading s).standing).events := by
      rw [he]
      intro hm
      cases Login.exchange_purposes w c timeout _ _ hm
    have hv : (Login.authenticate w c timeout
        (attempt w order reading s).standing).standing.desk.current.version =
          s.desk.current.version := by
      rw [he, Login.exchange_version, hd]
    obtain ⟨e, -, hw⟩ | ⟨token, -, hw⟩ := hw
    · rw [show o = _ from hw, Trace.purposes_append, Trace.purposes_noted, List.mem_append, not_or]
      exact ⟨⟨attempt_asks_no_version, hl⟩, hv⟩
    · rw [show o = _ from hw, Trace.purposes_append, Trace.purposes_noted, Trace.purposes_append,
        List.mem_append, List.mem_append, not_or, not_or, attempt_desk]
      exact ⟨⟨attempt_asks_no_version, hl, attempt_asks_no_version⟩, hv⟩

/-- A call in a session whose version is known asks for none. -/
theorem run_asks_no_version (h : s.desk.current.isVersionKnown = true) :
    .version ∉ Trace.purposes (run w order reading s).events := by
  rw [run_purposes, dispatch_of_known h]
  exact (withRenewal_of_version_known h order.timeout).1

end Dispatch

/-- An operation that wants no fresh version asks for none while one is known. -/
theorem Operation.perform_asks_no_version (w : Wire) {op : Operation} (hr : op.refreshes = false)
    {s : Standing} (h : s.desk.current.isVersionKnown = true) :
    .version ∉ Trace.purposes (perform w op s).events := by
  have hkept (timeout : Option Binary64) :
      Trace.purposes (Login.discoverVersion w false timeout s).events = [] := by
    rw [Login.discoverVersion_of_known h]
    rfl
  cases hc : op.isCall with
  | true =>
    have ho := perform_comesTo w hc s
    generalize perform w op s = o at ho
    cases ho with
    | unmade fault => simp
    | called order reading further => exact Dispatch.run_asks_no_version h
  | false =>
    cases op with
    | authenticate c timeout =>
      rw [perform, Call.map_apply, Login.authenticate_of_version_known h]
      intro hm
      cases Login.exchange_purposes w c timeout s _ hm
    | version refresh timeout =>
      obtain rfl : refresh = false := hr
      rw [perform, Call.map_apply, currentVersion_of_kept rfl, hkept]
      simp
    | discoverVersion refresh timeout =>
      obtain rfl : refresh = false := hr
      rw [perform, Call.map_apply, hkept]
      simp
    | recordVersion raw => simp [perform, Trace.purposes, Trace.purpose?]
    | setToken token => simp [perform]
    | useSession given => simp [perform]
    | setRecorder recorder => simp [perform, Call.setRecorder]
    | close => simp [perform, Trace.purposes, Trace.purpose?]
    | visit => simp [perform, Trace.purposes, Trace.purpose?]
    | _ => cases hc

namespace Client

variable (c : Client)

theorem leave_append (a b : List (Operation × List Answer)) :
    c.leave (a ++ b) = (c.leave a).leave b := by
  induction a generalizing c with
  | nil => rfl
  | cons step a ih => exact ih _

/-- The words that came for the version in some steps. -/
def versionWords (c : Client) : List (Operation × List Answer) → List Text
  | [] => []
  | (op, script) :: steps =>
    op.versionWords c.wire.codecs script (c.step op script).events ++
      (c.after (c.step op script)).versionWords steps

theorem versionWords_append (a b : List (Operation × List Answer)) :
    c.versionWords (a ++ b) = c.versionWords a ++ (c.leave a).versionWords b := by
  induction a generalizing c with
  | nil => rfl
  | cons step a ih =>
    rw [List.cons_append, versionWords, versionWords, ih, List.append_assoc]
    rfl

variable {c}

/-- One step keeps a version known, and makes it known if a word comes for it; an empty word alone
does otherwise. -/
theorem step_version_known {op : Operation} {script : List Answer} (ho : op.leavesVersion = true)
    (hw : ∀ raw ∈ op.versionWords c.wire.codecs script (c.step op script).events, raw ≠ [])
    (hk : c.desk.current.isVersionKnown = true ∨
      op.versionWords c.wire.codecs script (c.step op script).events ≠ []) :
    (c.after (c.step op script)).desk.current.isVersionKnown = true := by
  let s : Standing := ⟨c.desk, c.recorder, script, 0⟩
  have hs := (Operation.perform_says c.wire op s).session
  obtain ⟨hsub, hne⟩ := Operation.told_happenings c.wire ho s c.desk.current.credentials
  change (op.perform c.wire s).standing.desk.current.isVersionKnown = true
  rw [hs]
  refine Happening.known_across (Operation.isHandOver_happenings ho _ _ _ _)
    (fun raw hm => hw raw (hsub raw hm)) ?_
  rcases hk with hk | hk
  · exact .inl hk
  · exact hne hk

/-- So does a run, by induction on its steps. -/
theorem leave_version_known {steps : List (Operation × List Answer)}
    (ho : ∀ step ∈ steps, step.1.leavesVersion = true)
    (hw : ∀ raw ∈ c.versionWords steps, raw ≠ [])
    (hk : c.desk.current.isVersionKnown = true ∨ c.versionWords steps ≠ []) :
    (c.leave steps).desk.current.isVersionKnown = true := by
  induction steps generalizing c with
  | nil => exact hk.resolve_right fun hn => hn rfl
  | cons step steps ih =>
    obtain ⟨op, script⟩ := step
    have hop := ho (op, script) List.mem_cons_self
    have hrest : ∀ step ∈ steps, step.1.leavesVersion = true := fun step hm =>
      ho step (List.mem_cons_of_mem _ hm)
    have hfirst :
        ∀ raw ∈ op.versionWords c.wire.codecs script (c.step op script).events, raw ≠ [] :=
      fun raw hm => hw raw (List.mem_append_left _ hm)
    have hlater : ∀ raw ∈ (c.after (c.step op script)).versionWords steps, raw ≠ [] :=
      fun raw hm => hw raw (List.mem_append_right _ hm)
    by_cases hn : op.versionWords c.wire.codecs script (c.step op script).events = []
    · refine ih hrest hlater ?_
      rcases hk with hk | hk
      · exact .inl (step_version_known hop hfirst (.inl hk))
      · rw [versionWords, hn, List.nil_append] at hk
        exact .inr hk
    · exact ih hrest hlater (.inl (step_version_known hop hfirst (.inr hn)))

/-- The version only moves forward. In a run that leaves it to the gateway, and in which no empty
word comes for it, a version that is known at some point or for which a word has come by then is
known at every later point, and there nothing asks for it but what wants a fresh one. -/
theorem version_moves_forward (c : Client) {steps later : List (Operation × List Answer)}
    (ho : ∀ step ∈ steps ++ later, step.1.leavesVersion = true)
    (hw : ∀ raw ∈ c.versionWords (steps ++ later), raw ≠ [])
    (hk : (c.leave steps).desk.current.isVersionKnown = true ∨ c.versionWords steps ≠ []) :
    let last := c.leave (steps ++ later)
    last.desk.current.isVersionKnown = true ∧
    ∀ op script, op.refreshes = false →
      .version ∉ Trace.purposes (last.step op script).events := by
  intro last
  rw [versionWords_append] at hw
  have hmid : (c.leave steps).desk.current.isVersionKnown = true := by
    rcases hk with hk | hk
    · exact hk
    · exact leave_version_known (fun step hm => ho step (List.mem_append_left _ hm))
        (fun raw hm => hw raw (List.mem_append_left _ hm)) (.inr hk)
  have hlast : last.desk.current.isVersionKnown = true := by
    change (c.leave (steps ++ later)).desk.current.isVersionKnown = true
    rw [leave_append]
    exact leave_version_known (fun step hm => ho step (List.mem_append_right _ hm))
      (fun raw hm => hw raw (List.mem_append_right _ hm)) (.inl hmid)
  exact ⟨hlast, fun op script hr => Operation.perform_asks_no_version last.wire hr hlast⟩

end Client

namespace Sample

/-- A client that has just been set up. -/
def client (version : Option Text) : Client :=
  Client.opened {} .listed none { endpoint := "https://gateway", version }

/-- A version that is told, and then a login that is refused. -/
def toldVersion : List (Operation × List Answer) :=
  [(.version false none, [.reply { status := 200, body := Bytes.ofAscii "4.0" }])]

def refusedLogin : List (Operation × List Answer) :=
  [(.authenticate credentials none, [.reply { status := 401 }])]

/-- A fresh version is asked for, and the answer says nothing. -/
def emptyAnswer : List (Operation × List Answer) :=
  [(.discoverVersion true none, [.reply { status := 200 }])]

end Sample

namespace Client

open Sample

theorem version_moves_forward_past_refused_login :
    let c := client none
    let last := c.leave (toldVersion ++ refusedLogin)
    (∀ step ∈ toldVersion ++ refusedLogin, step.1.leavesVersion = true) ∧
    (∀ raw ∈ c.versionWords (toldVersion ++ refusedLogin), raw ≠ []) ∧
    c.desk.current.isVersionKnown = false ∧ c.versionWords toldVersion ≠ [] ∧
    last.desk.current.isVersionKnown = true ∧
    .version ∉ Trace.purposes (last.step (.execute order) [.reply { status := 200 }]).events := by
  intro c last
  have ho : ∀ step ∈ toldVersion ++ refusedLogin, step.1.leavesVersion = true := by decide
  have hw : ∀ raw ∈ c.versionWords (toldVersion ++ refusedLogin), raw ≠ [] := by decide +kernel
  have ht : c.versionWords toldVersion ≠ [] := by decide +kernel
  obtain ⟨hk, hp⟩ := version_moves_forward c ho hw (.inr ht)
  exact ⟨ho, hw, rfl, ht, hk, hp (.execute order) _ rfl⟩

/-- An empty word takes a known version away, so without the condition on words the version may move
back. -/
theorem empty_word_takes_version_back :
    ¬∀ (c : Client) (steps later : List (Operation × List Answer)),
      (∀ step ∈ steps ++ later, step.1.leavesVersion = true) →
      (c.leave steps).desk.current.isVersionKnown = true ∨ c.versionWords steps ≠ [] →
      (c.leave (steps ++ later)).desk.current.isVersionKnown = true := by
  intro h
  have hk := h (client (some "3.5")) [] emptyAnswer (by decide) (.inl rfl)
  revert hk
  decide +kernel

end Client

end StorageGateway
