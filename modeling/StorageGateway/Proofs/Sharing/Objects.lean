import StorageGateway.Session.Desk
import StorageGateway.Session.Shelf

/-! What the holders of a shelf see. An object that is not in use is written to by nobody, and it
comes into use only when it is handed over; so a copy, and whatever was there before a start, stays
as it is until then. The object that was handed over last is in use until a start or another one
takes its place. A desk keeps values and no objects; still, it says of the session in use and of the
one that was handed over what their holders see. -/
namespace StorageGateway

namespace Shelf

/-- Another object is put into use. -/
def Step.isReplacement : Step → Bool
  | start | install _ => true
  | write _ | snapshot => false

/-- The number that an object gets, or has, when it is handed over. -/
def number? (f : Shelf) : Source → Option Nat
  | .own _ => some f.made
  | .object n => if n < f.made then some n else none

@[simp] theorem run_nil (f : Shelf) : f.run [] = f := rfl

@[simp] theorem run_cons (f : Shelf) (step : Step) (steps : List Step) :
    f.run (step :: steps) = (f.step step).run steps := rfl

variable {f : Shelf}

theorem make_object_of_lt {n : Nat} (h : n < f.made) (s : Session) :
    (f.make s).object n = f.object n :=
  if_neg (Nat.ne_of_lt h)

@[simp] theorem make_object_self (f : Shelf) (s : Session) : (f.make s).object f.made = s :=
  if_pos rfl

theorem write_object_of_ne {n : Nat} (h : n ≠ f.inUse) (change : Change) :
    (f.write change).object n = f.object n :=
  if_neg h

@[simp] theorem write_current (f : Shelf) (change : Change) :
    (f.write change).current = f.current.changed change :=
  if_pos rfl

@[simp] theorem start_current (f : Shelf) : f.start.current = f.current.restarted :=
  f.make_object_self _

@[simp] theorem snapshot_current (f : Shelf) : f.snapshot.current = f.current :=
  make_object_of_lt f.inUse_lt _

theorem install_object_of_lt {n : Nat} (h : n < f.made) : f.install (.object n) = f.handOver n h :=
  dif_pos h

theorem install_object_of_ge {n : Nat} (h : ¬ n < f.made) : f.install (.object n) = f :=
  dif_neg h

/-- What is handed over is the object in use. -/
theorem install_inUse {source : Source} {n : Nat} (h : f.number? source = some n) :
    (f.install source).handed = some n ∧ (f.install source).inUse = n := by
  cases source with
  | own s => exact ⟨h, Option.some.inj h⟩
  | object m =>
    obtain ⟨hm, hn⟩ := Option.ite_none_right_eq_some.mp h
    cases hn
    rw [install_object_of_lt hm]
    exact ⟨rfl, rfl⟩

/-- What is there stays there. -/
theorem lt_made_step {n : Nat} (h : n < f.made) (step : Step) : n < (f.step step).made := by
  cases step with
  | start => exact Nat.lt_succ_of_lt h
  | install source =>
    cases source with
    | own s => exact Nat.lt_succ_of_lt h
    | object m =>
      by_cases hm : m < f.made
      · rw [Shelf.step, install_object_of_lt hm]
        exact h
      · rw [Shelf.step, install_object_of_ge hm]
        exact h
  | write change => exact h
  | snapshot => exact Nat.lt_succ_of_lt h

/-- A step leaves an object as it is, unless the object is in use and the step writes to it. -/
theorem step_object {n : Nat} (hn : n < f.made) (step : Step) :
    (f.step step).object n = f.object n ∨
      ∃ change, step = .write change ∧ n = f.inUse ∧
        (f.step step).object n = (f.object n).changed change := by
  cases step with
  | start => exact .inl (make_object_of_lt hn _)
  | install source =>
    cases source with
    | own s => exact .inl (make_object_of_lt hn _)
    | object m =>
      by_cases hm : m < f.made
      · rw [Shelf.step, install_object_of_lt hm]
        exact .inl rfl
      · rw [Shelf.step, install_object_of_ge hm]
        exact .inl rfl
  | write change =>
    by_cases hu : n = f.inUse
    · subst hu
      exact .inr ⟨change, rfl, rfl, f.write_current change⟩
    · exact .inl (write_object_of_ne hu change)
  | snapshot => exact .inl (make_object_of_lt hn _)

/-- No step but one that hands it over puts an object into use that is there already. -/
theorem step_inUse {n : Nat} (hn : n < f.made) (hu : n ≠ f.inUse) {step : Step}
    (hs : step ≠ .install (.object n)) : n ≠ (f.step step).inUse := by
  cases step with
  | start => exact Nat.ne_of_lt hn
  | install source =>
    cases source with
    | own s => exact Nat.ne_of_lt hn
    | object m =>
      by_cases hm : m < f.made
      · rw [Shelf.step, install_object_of_lt hm]
        exact fun h => hs (h ▸ rfl)
      · rwa [Shelf.step, install_object_of_ge hm]
  | write change => exact hu
  | snapshot => exact hu

/-- What each of some steps keeps holds after all of them. -/
theorem forall_history (P : Shelf → Prop) {steps : List Step}
    (hstep : ∀ f step, step ∈ steps → P f → P (f.step step)) (h : P f) :
    ∀ g ∈ f.history steps, P g := by
  induction steps generalizing f with
  | nil => simp [history]
  | cons step steps ih =>
    have hnext := hstep f step List.mem_cons_self h
    have hrest := ih (fun f s hs => hstep f s (List.mem_cons_of_mem step hs)) hnext
    simpa [history] using ⟨hnext, hrest⟩

/-- An object that is not in use stays as it is until it is handed over. -/
theorem history_object {n : Nat} (hn : n < f.made) (hu : n ≠ f.inUse) {steps : List Step}
    (hs : .install (.object n) ∉ steps) : ∀ g ∈ f.history steps, g.object n = f.object n := by
  have hkept : ∀ g ∈ f.history steps, n < g.made ∧ n ≠ g.inUse ∧ g.object n = f.object n :=
    forall_history (fun g => n < g.made ∧ n ≠ g.inUse ∧ g.object n = f.object n)
      (fun g step hm hg => ?_) ⟨hn, hu, rfl⟩
  · exact fun g hg => (hkept g hg).2.2
  · have hne : step ≠ .install (.object n) := fun h => hs (h ▸ hm)
    obtain ⟨hlt, hunused, hvalue⟩ := hg
    have hkept : (g.step step).object n = g.object n :=
      (step_object hlt step).resolve_right fun ⟨_, _, hu, _⟩ => hunused hu
    exact ⟨lt_made_step hlt step, step_inUse hlt hunused hne, hkept.trans hvalue⟩

/-- It stays so from the first of some steps on, if it is not in use then. -/
theorem history_object_first {n : Nat} {first : Step} (hn : n < (f.step first).made)
    (hu : n ≠ (f.step first).inUse) {steps : List Step} (hs : .install (.object n) ∉ steps) :
    ∀ g ∈ f.history (first :: steps), g.object n = (f.step first).object n := by
  intro g hg
  rcases List.mem_cons.mp hg with rfl | hg
  · rfl
  · exact history_object hn hu hs g hg

/-- The object in use and the one that was handed over last change only with a replacement. -/
theorem step_holders {step : Step} (h : step.isReplacement = false) :
    (f.step step).inUse = f.inUse ∧ (f.step step).handed = f.handed := by
  cases step with
  | start => cases h
  | install source => cases h
  | write change => exact ⟨rfl, rfl⟩
  | snapshot => exact ⟨rfl, rfl⟩

theorem history_holders {step : Step} {steps : List Step}
    (h : ∀ x ∈ steps, x.isReplacement = false) :
    ∀ g ∈ f.history (step :: steps),
      g.inUse = (f.step step).inUse ∧ g.handed = (f.step step).handed := by
  have hrest : ∀ g ∈ (f.step step).history steps,
      g.inUse = (f.step step).inUse ∧ g.handed = (f.step step).handed :=
    forall_history (fun g => g.inUse = (f.step step).inUse ∧ g.handed = (f.step step).handed)
      (fun g x hx hg => ?_) ⟨rfl, rfl⟩
  · intro g hg
    rcases List.mem_cons.mp hg with rfl | hg
    · exact ⟨rfl, rfl⟩
    · exact hrest g hg
  · obtain ⟨hu, hh⟩ := step_holders (f := g) (h x hx)
    exact ⟨hu.trans hg.1, hh.trans hg.2⟩

/-- What the holders of a shelf see in the course of some steps. -/
structure Discipline (f : Shelf) (steps : List Step) : Prop where
  /-- A copy is what was in use when it was taken. Whatever follows, it stays so, as long as it is
  not the copy itself that is handed over. -/
  copy : ∀ n, f.snapshot.copied = some n → .install (.object n) ∉ steps →
    ∀ g ∈ f.history (.snapshot :: steps), g.object n = f.current
  /-- What is handed over, be it new, a copy or an earlier object, is the session in use after
  every step, until a start or another one takes its place. -/
  handed : ∀ source n, f.number? source = some n → (∀ step ∈ steps, step.isReplacement = false) →
    ∀ g ∈ f.history (.install source :: steps), g.handed = some n ∧ g.object n = g.current
  /-- So an object that was there already is written to once it is handed over, also a copy. -/
  written : ∀ n < f.made, ∀ change,
    (f.run [.install (.object n), .write change]).object n = (f.object n).changed change
  /-- A start keeps all but the token, in an object that was not there before. -/
  fresh : f.start.current = { f.current with token := [] } ∧ f.start.inUse = f.made
  /-- It is the one that is written to until another one takes its place. -/
  inUse : (∀ step ∈ steps, step.isReplacement = false) →
    ∀ g ∈ f.history (.start :: steps), g.inUse = f.start.inUse
  /-- Whatever was there before a start, the session that was handed over last among it, keeps the
  value that it had, unless it is handed over again. -/
  left : ∀ n < f.made, .install (.object n) ∉ steps →
    ∀ g ∈ f.history (.start :: steps), g.object n = f.object n
  /-- Nothing but a write changes an object, and only the one in use. -/
  frame : ∀ n < f.made, ∀ step, (f.step step).object n = f.object n ∨
    ∃ change, step = .write change ∧ n = f.inUse ∧
      (f.step step).object n = (f.object n).changed change

/-- A copy is never in use before it is handed over. -/
theorem history_copy (f : Shelf) {steps : List Step} (h : .install (.object f.made) ∉ steps) :
    ∀ g ∈ f.history (.snapshot :: steps), g.object f.made = f.current := by
  have hunused : f.made ≠ f.snapshot.inUse := Nat.ne_of_gt f.inUse_lt
  have hcopy : f.snapshot.object f.made = f.current := f.make_object_self _
  exact fun g hg => (history_object_first (Nat.lt_succ_self f.made) hunused h g hg).trans hcopy

theorem history_handed {f : Shelf} {source : Source} {n : Nat} (hn : f.number? source = some n)
    {steps : List Step} (h : ∀ step ∈ steps, step.isReplacement = false) :
    ∀ g ∈ f.history (.install source :: steps), g.handed = some n ∧ g.object n = g.current := by
  obtain ⟨hh, hu⟩ := install_inUse hn
  intro g hg
  obtain ⟨hinUse, hhanded⟩ := history_holders h g hg
  refine ⟨hhanded.trans hh, ?_⟩
  rw [current, hinUse.trans hu]

theorem write_handedOver {f : Shelf} {n : Nat} (hn : n < f.made) (change : Change) :
    (f.run [.install (.object n), .write change]).object n = (f.object n).changed change := by
  rw [run_cons, run_cons, run_nil, step, install_object_of_lt hn]
  exact (f.handOver n hn).write_current change

/-- A start puts nothing into use that was there before. -/
theorem history_start {f : Shelf} {n : Nat} (hn : n < f.made) {steps : List Step}
    (h : .install (.object n) ∉ steps) :
    ∀ g ∈ f.history (.start :: steps), g.object n = f.object n := by
  have hunused : n ≠ f.start.inUse := Nat.ne_of_lt hn
  have hkept : f.start.object n = f.object n := make_object_of_lt hn _
  exact fun g hg => (history_object_first (Nat.lt_succ_of_lt hn) hunused h g hg).trans hkept

theorem discipline (f : Shelf) (steps : List Step) : f.Discipline steps where
  copy n hn h := by
    cases hn
    exact f.history_copy h
  handed _ _ hn := history_handed hn
  written _ hn := write_handedOver hn
  fresh := ⟨f.start_current, rfl⟩
  inUse h g hg := (history_holders h g hg).1
  left _ hn := history_start hn
  frame _ hn := step_object hn

end Shelf

/-! The steps of a desk, told in values. -/

namespace Desk

inductive Step where
  | start
  | install (s : Session)
  | write (change : Change)
  deriving DecidableEq

namespace Step

/-- A caller hands a session over. -/
def isHandOver : Step → Bool
  | install _ => true
  | start | write _ => false

/-- Another session is put into use. -/
def isReplacement : Step → Bool
  | start | install _ => true
  | write _ => false

end Step

def step (d : Desk) : Step → Desk
  | .start => d.start
  | .install s => d.install s
  | .write change => { d with current := d.current.changed change }

def after (d : Desk) (steps : List Step) : Desk := steps.foldl step d

@[simp] theorem after_nil (d : Desk) : d.after [] = d := rfl

@[simp] theorem after_cons (d : Desk) (step : Step) (steps : List Step) :
    d.after (step :: steps) = (d.step step).after steps := rfl

theorem after_append (d : Desk) (a b : List Step) : d.after (a ++ b) = (d.after a).after b :=
  List.foldl_append

/-- A session that is not in use is seen unchanged until another one is handed over. -/
theorem given?_step {d : Desk} {step : Step} (hd : d.handed ≠ .inUse)
    (h : step.isHandOver = false) :
    (d.step step).given? = d.given? ∧ (d.step step).handed ≠ .inUse := by
  obtain ⟨current, handed⟩ := d
  cases step with
  | install s => cases h
  | _ => cases handed with
    | inUse => exact absurd rfl hd
    | never => exact ⟨rfl, Handed.noConfusion⟩
    | leftBehind s => exact ⟨rfl, Handed.noConfusion⟩

/-- A start leaves the handed session behind as it is. -/
theorem given?_start (d : Desk) : d.start.given? = d.given? ∧ d.start.handed ≠ .inUse := by
  obtain ⟨current, handed⟩ := d
  cases handed with
  | never => exact ⟨rfl, Handed.noConfusion⟩
  | inUse => exact ⟨rfl, Handed.noConfusion⟩
  | leftBehind s => exact ⟨rfl, Handed.noConfusion⟩

theorem given?_after {d : Desk} (hd : d.handed ≠ .inUse) {steps : List Step}
    (h : ∀ step ∈ steps, step.isHandOver = false) : (d.after steps).given? = d.given? := by
  induction steps generalizing d with
  | nil => rfl
  | cons step steps ih =>
    obtain ⟨hg, hd⟩ := given?_step hd (h step List.mem_cons_self)
    exact (ih hd fun s hs => h s (List.mem_cons_of_mem step hs)).trans hg

/-- A session that is in use stays so until another one takes its place. -/
theorem handed_after {d : Desk} {steps : List Step}
    (h : ∀ step ∈ steps, step.isReplacement = false) : (d.after steps).handed = d.handed := by
  induction steps generalizing d with
  | nil => rfl
  | cons step steps ih =>
    have hstep : (d.step step).handed = d.handed := by
      cases step with
      | write change => rfl
      | _ => cases h _ List.mem_cons_self
    exact (ih fun s hs => h s (List.mem_cons_of_mem step hs)).trans hstep

end Desk

/-! The desk that goes with a shelf. -/

namespace Shelf

/-- What became of the object that was handed over last. -/
def hand (f : Shelf) : Handed :=
  match f.handed with
  | none => .never
  | some n => if n = f.inUse then .inUse else .leftBehind (f.object n)

def desk (f : Shelf) : Desk := ⟨f.current, f.hand⟩

/-- A step by the values that go with it. What is handed over has the value that its object has by
then, and a copy leaves the desk alone. -/
def told? (f : Shelf) : Step → Option Desk.Step
  | .start => some .start
  | .install (.own s) => some (.install s)
  | .install (.object n) => if n < f.made then some (.install (f.object n)) else none
  | .write change => some (.write change)
  | .snapshot => none

def told (f : Shelf) : List Step → List Desk.Step
  | [] => []
  | step :: steps => (f.told? step).toList ++ (f.step step).told steps

variable {f : Shelf}

/-- Who holds the object that was handed over last sees what the desk says. -/
theorem desk_given? (f : Shelf) : f.desk.given? = f.handed.map f.object := by
  simp only [desk, hand, Desk.given?]
  cases f.handed with
  | none => rfl
  | some n =>
    by_cases hn : n = f.inUse
    · simp [hn, current]
    · simp [hn]

theorem hand_of_none (h : f.handed = none) : f.hand = .never := by
  rw [hand, h]

theorem hand_of_some {n : Nat} (h : f.handed = some n) :
    f.hand = if n = f.inUse then .inUse else .leftBehind (f.object n) := by
  rw [hand, h]

/-- The desk of a shelf where a known object was handed over and put into use. -/
theorem desk_of_inUse {n : Nat} (hh : f.handed = some n) (hu : f.inUse = n) :
    f.desk = ⟨f.object n, .inUse⟩ := by
  rw [desk, hand_of_some hh, current, hu, if_pos rfl]

theorem desk_start (f : Shelf) : f.start.desk = f.desk.start := by
  have hhand : f.start.hand = f.desk.start.handed := by
    cases hh : f.handed with
    | none =>
      have hs : f.start.handed = none := hh
      rw [hand_of_none hs, desk, hand_of_none hh]
      rfl
    | some n =>
      have hs : f.start.handed = some n := hh
      have hlt := f.handed_lt n hh
      have hne : n ≠ f.start.inUse := Nat.ne_of_lt hlt
      have hkept : f.start.object n = f.object n := make_object_of_lt hlt _
      rw [hand_of_some hs, if_neg hne, hkept, desk, hand_of_some hh]
      by_cases hu : n = f.inUse
      · rw [if_pos hu, hu]
        rfl
      · rw [if_neg hu]
        rfl
  rw [desk, hhand, start_current]
  rfl

theorem desk_write (f : Shelf) (change : Change) :
    (f.write change).desk = f.desk.step (.write change) := by
  have hhand : (f.write change).hand = f.hand := by
    cases hh : f.handed with
    | none => rw [hand_of_none hh, hand_of_none (f := f.write change) hh]
    | some n =>
      rw [hand_of_some hh, hand_of_some (f := f.write change) hh]
      by_cases hu : n = f.inUse
      · exact (if_pos hu).trans (if_pos hu).symm
      · rw [write_object_of_ne hu]
        rfl
  rw [desk, hhand, write_current]
  rfl

theorem desk_snapshot (f : Shelf) : f.snapshot.desk = f.desk := by
  have hhand : f.snapshot.hand = f.hand := by
    cases hh : f.handed with
    | none => rw [hand_of_none hh, hand_of_none (f := f.snapshot) hh]
    | some n =>
      have hkept : f.snapshot.object n = f.object n := make_object_of_lt (f.handed_lt n hh) _
      rw [hand_of_some hh, hand_of_some (f := f.snapshot) hh, hkept]
      rfl
  rw [desk, hhand, snapshot_current]
  rfl

/-- The desk goes along with every step of the shelf, whichever object is handed over. -/
theorem desk_step (f : Shelf) (step : Step) :
    (f.step step).desk = f.desk.after (f.told? step).toList := by
  cases step with
  | start => exact f.desk_start
  | install source =>
    cases source with
    | own s =>
      have hin : (f.install (.own s)).handed = some f.made ∧ (f.install (.own s)).inUse = f.made :=
        install_inUse rfl
      rw [Shelf.step, desk_of_inUse hin.1 hin.2]
      exact congrArg (Desk.mk · .inUse) (f.make_object_self s)
    | object n =>
      by_cases hn : n < f.made
      · rw [Shelf.step, install_object_of_lt hn, told?, if_pos hn]
        exact desk_of_inUse rfl rfl
      · rw [Shelf.step, install_object_of_ge hn, told?, if_neg hn]
        rfl
  | write change => exact f.desk_write change
  | snapshot => exact f.desk_snapshot

theorem run_desk (f : Shelf) (steps : List Step) :
    (f.run steps).desk = f.desk.after (f.told steps) := by
  induction steps generalizing f with
  | nil => rfl
  | cons step steps ih => rw [run_cons, ih, desk_step, told, Desk.after_append]

theorem told?_eq_start {step : Step} (h : f.told? step = some .start) : step = .start := by
  cases step with
  | start => rfl
  | install source =>
    cases source with
    | own s => cases h
    | object n =>
      obtain ⟨-, hs⟩ := Option.ite_none_right_eq_some.mp h
      cases hs
  | write change => cases h
  | snapshot => cases h

/-- A start that is told of is one of the steps. -/
theorem exists_start_of_told {steps : List Step} {earlier later : List Desk.Step}
    (h : f.told steps = earlier ++ .start :: later) :
    ∃ first rest, steps = first ++ .start :: rest ∧ f.told first = earlier := by
  induction steps generalizing f earlier with
  | nil => exact absurd h.symm (by simp [told])
  | cons step steps ih =>
    rw [told] at h
    cases hs : f.told? step with
    | none =>
      rw [hs] at h
      obtain ⟨first, rest, hsteps, htold⟩ := ih h
      exact ⟨step :: first, rest, by rw [hsteps, List.cons_append], by simp [told, hs, htold]⟩
    | some d =>
      rw [hs] at h
      cases earlier with
      | nil =>
        obtain ⟨rfl, -⟩ := List.cons.inj h
        exact ⟨[], steps, by rw [told?_eq_start hs, List.nil_append], rfl⟩
      | cons e earlier =>
        obtain ⟨rfl, hrest⟩ := List.cons.inj h
        obtain ⟨first, rest, hsteps, htold⟩ := ih hrest
        exact ⟨step :: first, rest, by rw [hsteps, List.cons_append], by simp [told, hs, htold]⟩

end Shelf

namespace Desk

/-- A step of a desk as one of a shelf where every session that is handed over is new. -/
def Step.onShelf : Step → Shelf.Step
  | start => .start
  | install s => .install (.own s)
  | write change => .write change

theorem told_onShelf (f : Shelf) (steps : List Step) : f.told (steps.map Step.onShelf) = steps := by
  induction steps generalizing f with
  | nil => rfl
  | cons step steps ih =>
    rw [List.map_cons, Shelf.told, ih]
    cases step <;> rfl

/-- Every desk is the desk of some shelf. -/
theorem exists_shelf (d : Desk) : ∃ f : Shelf, f.desk = d := by
  obtain ⟨current, handed⟩ := d
  cases handed with
  | never => exact ⟨Shelf.opened current, rfl⟩
  | inUse => exact ⟨(Shelf.opened current).handOver 0 Nat.zero_lt_one, rfl⟩
  | leftBehind s =>
    exact ⟨{ (Shelf.opened current).make s with
      handed := some 1
      handed_lt := by simp [Shelf.make, Shelf.opened] }, rfl⟩

end Desk

end StorageGateway
