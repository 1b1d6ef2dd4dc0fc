import StorageGateway.Proofs.Calls

/-! The requests of a call side by side with the answers that the script gives them in turn. A call
that takes exactly one answer for each request can be read in pieces: the exchanges of two calls in
a row are those of the first, and those of the second on what the first has left of the script. -/
namespace StorageGateway

/-- A request with what it is for, and the answer that was there for it, if any was left. -/
structure Exchange where
  purpose : Purpose
  request : Request
  answer : Option Answer

namespace Exchange

/-- The reply that came. -/
def reply? (e : Exchange) : Option Reply :=
  match e.answer with
  | some (.reply r) => some r
  | _ => none

/-- The status of the reply that came. -/
def status? (e : Exchange) : Option Int := e.reply?.map Reply.status

/-- The bare word of a reply that came with success and could be read. -/
def word? (codecs : Bytes.Codecs) (e : Exchange) : Option Text :=
  (e.reply?.filter fun r => isSuccess r.status).bind fun r => (r.scalar codecs).toOption

/-- The token that a login wins: a word that is not empty. -/
def token? (codecs : Bytes.Codecs) (e : Exchange) : Option Text :=
  (e.word? codecs).filter (· ≠ [])

end Exchange

namespace Trace

def purpose? : Event → Option Purpose
  | .sent purpose _ => some purpose
  | _ => none

/-- What the requests were for, in the order in which they were sent. -/
def purposes (events : List Event) : List Purpose := events.filterMap purpose?

/-- Each request takes the next answer of the script. -/
def exchanges : List Answer → List Event → List Exchange
  | _, [] => []
  | script, .sent purpose request :: events =>
    ⟨purpose, request, script.head?⟩ :: exchanges script.tail events
  | script, _ :: events => exchanges script events

@[simp] theorem purposes_nil : purposes [] = [] := rfl

@[simp] theorem purposes_append (a b : List Event) :
    purposes (a ++ b) = purposes a ++ purposes b := by
  simp [purposes]

theorem purposes_cons (e : Event) (events : List Event) :
    purposes (e :: events) = (purpose? e).toList ++ purposes events := by
  cases h : purpose? e <;> simp [purposes, h]

@[simp] theorem exchanges_nil (script : List Answer) : exchanges script [] = [] := by
  cases script <;> rfl

@[simp] theorem exchanges_sent (script : List Answer) (p : Purpose) (request : Request)
    (events : List Event) :
    exchanges script (.sent p request :: events) =
      ⟨p, request, script.head?⟩ :: exchanges script.tail events := rfl

theorem exchanges_of_silent (script : List Answer) {e : Event} (h : purpose? e = none)
    (events : List Event) : exchanges script (e :: events) = exchanges script events := by
  cases e with
  | sent p request => cases h
  | _ => rfl

@[simp] theorem purposes_noted (n : Notice) (events : List Event) :
    purposes (.noted n :: events) = purposes events := rfl

@[simp] theorem exchanges_noted (script : List Answer) (n : Notice) (events : List Event) :
    exchanges script (.noted n :: events) = exchanges script events :=
  exchanges_of_silent script rfl events

theorem exchanges_of_all_silent (script : List Answer) {events : List Event}
    (h : ∀ e ∈ events, purpose? e = none) : exchanges script events = [] := by
  induction events with
  | nil => simp
  | cons e events ih =>
    rw [exchanges_of_silent script (h e List.mem_cons_self)]
    exact ih fun x hx => h x (List.mem_cons_of_mem e hx)

theorem exchanges_append (script : List Answer) (a b : List Event) :
    exchanges script (a ++ b) =
      exchanges script a ++ exchanges (script.drop (purposes a).length) b := by
  induction a generalizing script with
  | nil => simp
  | cons e a ih =>
    cases he : purpose? e with
    | none =>
      rw [List.cons_append, exchanges_of_silent script he, exchanges_of_silent script he, ih,
        purposes_cons, he]
      rfl
    | some p =>
      cases e with
      | sent q request =>
        rw [List.cons_append, exchanges_sent, exchanges_sent, ih, purposes_cons, he]
        simp
      | _ => cases he

/-- The exchanges show what the requests were for. -/
theorem map_purpose_exchanges (script : List Answer) (events : List Event) :
    (exchanges script events).map Exchange.purpose = purposes events := by
  induction events generalizing script with
  | nil => simp
  | cons e events ih =>
    cases e with
    | sent p request => simp [purposes_cons, purpose?, ih]
    | _ => rw [exchanges_of_silent script rfl, ih, purposes_cons]; rfl

theorem purpose_mem_of_mem_exchanges {script : List Answer} {events : List Event} {e : Exchange}
    (h : e ∈ exchanges script events) : e.purpose ∈ purposes events := by
  rw [← map_purpose_exchanges script]
  exact List.mem_map_of_mem h

/-- A place in two rows of events is in the first or in the second. -/
theorem split_append {pre post a b : List Event} {e : Event} (h : a ++ b = pre ++ e :: post) :
    (∃ rest, a = pre ++ e :: rest) ∨ ∃ more, pre = a ++ more ∧ b = more ++ e :: post := by
  obtain ⟨more, hp, hb⟩ | ⟨rest, ha, hp⟩ := List.append_eq_append_iff.mp h
  · exact .inr ⟨more, hp, hb⟩
  · cases rest with
    | nil => exact .inr ⟨[], by simpa using ha.symm, hp.symm⟩
    | cons x rest =>
      cases hp
      exact .inl ⟨rest, ha⟩

/-- Among events that send once there is one place for a request. -/
theorem sent_once {a b pre post : List Event} {p q : Purpose} {r x : Request}
    (ha : ∀ e ∈ a, purpose? e = none) (hb : ∀ e ∈ b, purpose? e = none)
    (h : a ++ .sent p r :: b = pre ++ .sent q x :: post) : pre = a ∧ p = q ∧ r = x := by
  obtain ⟨rest, hr⟩ | ⟨more, hp, hm⟩ := split_append h
  · have hn := ha (.sent q x) (by rw [hr]; simp)
    cases hn
  · cases more with
    | nil =>
      cases hm
      exact ⟨by rw [hp, List.append_nil], rfl, rfl⟩
    | cons e more =>
      obtain ⟨-, hm⟩ := List.cons.inj hm
      have hn := hb (.sent q x) (by rw [hm]; simp)
      cases hn

end Trace

namespace Call

variable {α β : Type}

/-- A call that takes one answer of the script for each request that it sends, and no other. -/
def Paced (call : Call α) : Prop :=
  ∀ s, (call s).standing.script = s.script.drop (Trace.purposes (call s).events).length

/-- A call that neither sends anything nor touches the script. -/
theorem Paced.of_silent {call : Call α}
    (h : ∀ s, Trace.purposes (call s).events = [] ∧ (call s).standing.script = s.script) :
    Paced call := by
  intro s
  obtain ⟨he, hs⟩ := h s
  rw [he, hs]
  rfl

theorem Paced.pure (a : α) : Paced (Pure.pure a : Call α) := fun s => by simp

theorem Paced.bind {call : Call α} {next : α → Call β} (h : Paced call)
    (hn : ∀ a, Paced (next a)) : Paced (call >>= next) := by
  intro s
  cases hr : (call s).result with
  | ok a =>
    rw [bind_of_ok hr]
    simp only [hn a (call s).standing, h s, Trace.purposes_append, List.length_append,
      List.drop_drop]
  | error fault => rw [bind_of_error hr]; exact h s

theorem Paced.rescue {call : Call α} {handler : Fault → Call α} (h : Paced call)
    (hh : ∀ fault, Paced (handler fault)) : Paced (rescue call handler) := by
  intro s
  cases hr : (call s).result with
  | ok a => rw [rescue_of_ok hr]; exact h s
  | error fault =>
    rw [rescue_of_error hr]
    simp only [hh fault (call s).standing, h s, Trace.purposes_append, List.length_append,
      List.drop_drop]

theorem Paced.mapFault {call : Call α} (f : Fault → Fault) (h : Paced call) :
    Paced (mapFault f call) := h

theorem Paced.always {call : Call α} {last : Call Unit} (h : Paced call) (hl : Paced last) :
    Paced (always call last) := by
  intro s
  simp only [always_standing, always_events, hl (call s).standing, h s, Trace.purposes_append,
    List.length_append, List.drop_drop]

end Call

end StorageGateway
