import StorageGateway.Proofs.Laws

/-! Every reply is closed, and no reply twice, whatever becomes of the work that asked for it. A
reply that comes is closed with nothing but asides before that, and only then can another come; this
is a law of calls, so it holds of all operations and of all commands. -/
namespace StorageGateway

namespace Wire

variable (w : Wire) {p : Purpose} {request : Request} {s : Standing}

theorem inquiryEvents_unanswered (h : Exchange.reply? ⟨p, request, s.script.head?⟩ = none) :
    w.inquiryEvents p request s = [.sent p request] ∧ s.next.answered = s.answered := by
  obtain ⟨desk, recorder, script, answered⟩ := s
  cases script with
  | nil => exact ⟨rfl, rfl⟩
  | cons answer rest =>
    cases answer with
    | reply r => cases h
    | unreachable why text => exact ⟨rfl, rfl⟩
    | crash why text => exact ⟨rfl, rfl⟩

theorem inquiryEvents_answered {r : Reply}
    (h : Exchange.reply? ⟨p, request, s.script.head?⟩ = some r) :
    w.inquiryEvents p request s = .sent p request ::
        .answered s.answered r :: (w.exchangeNotes request r ++ [.closed s.answered]) ∧
      s.next.answered = s.answered + 1 := by
  obtain ⟨desk, recorder, script, answered⟩ := s
  cases script with
  | nil => cases h
  | cons answer rest =>
    cases answer with
    | reply r => cases h; exact ⟨rfl, rfl⟩
    | unreachable why text => cases h
    | crash why text => cases h

end Wire

namespace Trace

/-- The replies that a script gave to requests. -/
def replies (script : List Answer) (events : List Event) : List Reply :=
  (exchanges script events).filterMap Exchange.reply?

def arrival? : Event → Option (Reply × Nat)
  | .answered index reply => some (reply, index)
  | _ => none

/-- The replies that came, each with its number. -/
def arrivals (events : List Event) : List (Reply × Nat) := events.filterMap arrival?

@[simp] theorem arrivals_append (a b : List Event) :
    arrivals (a ++ b) = arrivals a ++ arrivals b := List.filterMap_append

theorem purpose?_of_aside {e : Event} (h : e.isAside = true) : purpose? e = none := by
  cases e with
  | sent p request => cases h
  | _ => rfl

theorem arrivals_of_asides {events : List Event} (h : ∀ e ∈ events, e.isAside = true) :
    arrivals events = [] := by
  refine List.filterMap_eq_nil_iff.mpr fun e he => ?_
  have ha := h e he
  cases e with
  | answered index r => cases ha
  | _ => rfl

theorem exchangeNotes_asides (w : Wire) (request : Request) (r : Reply) :
    ∀ e ∈ w.exchangeNotes request r, e.isAside = true := by
  intro e he
  unfold Wire.exchangeNotes at he
  split at he
  · simp only [List.mem_cons, List.not_mem_nil, or_false] at he
    rcases he with rfl | rfl
    · rfl
    · rfl
  · cases he

/-- Events in which the replies from one number up to another come in turn, each of them closed
before anything but an aside happens. -/
inductive Closes : Nat → List Event → Nat → Prop where
  | nil (n : Nat) : Closes n [] n
  | aside {n m : Nat} {e : Event} {events : List Event} (he : e.isAside = true)
      (h : Closes n events m) : Closes n (e :: events) m
  | sent {n m : Nat} {events : List Event} (p : Purpose) (request : Request)
      (h : Closes n events m) : Closes n (.sent p request :: events) m
  | reply {n m : Nat} {notes events : List Event} (r : Reply)
      (hn : ∀ e ∈ notes, e.isAside = true) (h : Closes (n + 1) events m) :
      Closes n (.answered n r :: (notes ++ .closed n :: events)) m

namespace Closes

variable {n m k : Nat} {a b : List Event}

theorem append (h : Closes n a m) (hb : Closes m b k) : Closes n (a ++ b) k := by
  induction h with
  | nil n => exact hb
  | aside he _ ih => exact .aside he (ih hb)
  | sent p request _ ih => exact .sent p request (ih hb)
  | @reply n m notes events r hn _ ih =>
    simpa only [List.cons_append, List.append_assoc] using Closes.reply r hn (ih hb)

theorem asides (h : ∀ e ∈ a, e.isAside = true) (n : Nat) : Closes n a n := by
  induction a with
  | nil => exact .nil n
  | cons e a ih =>
    exact .aside (h e List.mem_cons_self) (ih fun x hx => h x (List.mem_cons_of_mem e hx))

theorem le (h : Closes n a m) : n ≤ m := by
  induction h with
  | nil n => exact Nat.le_refl n
  | aside _ _ ih => exact ih
  | sent _ _ _ ih => exact ih
  | reply _ _ _ ih => exact Nat.le_of_succ_le ih

theorem count_asides (h : ∀ e ∈ a, e.isAside = true) (i : Nat) : a.count (.closed i) = 0 :=
  List.count_eq_zero.mpr fun hm => by cases h _ hm

/-- Of the replies that came each is closed once, and no other. -/
theorem count (h : Closes n a m) (i : Nat) :
    a.count (.closed i) = if n ≤ i ∧ i < m then 1 else 0 := by
  induction h with
  | nil n =>
    rw [List.count_nil, if_neg]
    omega
  | @aside n m e events he _ ih =>
    rw [List.count_cons_of_ne, ih]
    rintro rfl
    cases he
  | sent p request _ ih => rw [List.count_cons_of_ne Event.noConfusion, ih]
  | @reply n m notes events r hn h ih =>
    have hle := h.le
    rw [List.count_cons_of_ne Event.noConfusion, List.count_append, count_asides hn,
      List.count_cons, ih]
    by_cases hi : n = i
    · subst hi
      have hlt : n < m := hle
      simp [hlt]
    · have hne : (Event.closed n == Event.closed i) = false := by simpa using hi
      have hiff : (n + 1 ≤ i ∧ i < m) ↔ (n ≤ i ∧ i < m) := by omega
      simp only [hne, hiff, Bool.false_eq_true, if_false, Nat.zero_add, Nat.add_zero]

end Closes

/-- Work that takes its replies from the script, numbers them in turn and closes each. -/
structure Settled (s : Standing) (events : List Event) (left : Standing) : Prop where
  script : left.script = s.script.drop (purposes events).length
  answered : left.answered = s.answered + (replies s.script events).length
  arrivals : arrivals events = (replies s.script events).zipIdx s.answered
  closes : Closes s.answered events left.answered

namespace Settled

variable {s middle left : Standing} {a b : List Event}

theorem asides (h : ∀ e ∈ a, e.isAside = true) (hs : left.script = s.script)
    (ha : left.answered = s.answered) : Settled s a left := by
  have hp : ∀ e ∈ a, purpose? e = none := fun e he => purpose?_of_aside (h e he)
  have hr : replies s.script a = [] := by
    rw [replies, exchanges_of_all_silent s.script hp]
    rfl
  refine ⟨?_, ?_, ?_, ?_⟩
  · rw [purposes, List.filterMap_eq_nil_iff.mpr hp, hs]
    rfl
  · rw [hr, ha]
    rfl
  · rw [hr, arrivals_of_asides h]
    rfl
  · rw [ha]
    exact .asides h s.answered

theorem append (h : Settled s a middle) (hb : Settled middle b left) : Settled s (a ++ b) left := by
  have hr : replies s.script (a ++ b) = replies s.script a ++ replies middle.script b := by
    rw [replies, exchanges_append, List.filterMap_append, ← h.script]
    rfl
  refine ⟨?_, ?_, ?_, h.closes.append hb.closes⟩
  · rw [hb.script, h.script, List.drop_drop, purposes_append, List.length_append]
  · rw [hb.answered, h.answered, hr, List.length_append, Nat.add_assoc]
  · rw [hr, List.zipIdx_append, ← h.arrivals, ← h.answered, ← hb.arrivals, arrivals_append]

/-- A request, with its reply if one comes; what is said of the exchange comes before the closing. -/
theorem inquiry (w : Wire) (p : Purpose) (request : Request) (hs : left.script = s.next.script)
    (ha : left.answered = s.next.answered) : Settled s (w.inquiryEvents p request s) left := by
  have hscript : left.script = s.script.drop (purposes (w.inquiryEvents p request s)).length := by
    rw [Wire.purposes_inquiryEvents, hs, s.next_script]
    exact List.drop_one.symm
  have hr : replies s.script (w.inquiryEvents p request s) =
      (Exchange.reply? ⟨p, request, s.script.head?⟩).toList := by
    rw [replies, Wire.exchanges_inquiryEvents]
    cases h : Exchange.reply? ⟨p, request, s.script.head?⟩ with
    | none => rw [List.filterMap_cons_none h]; rfl
    | some r => rw [List.filterMap_cons_some h]; rfl
  cases h : Exchange.reply? ⟨p, request, s.script.head?⟩ with
  | none =>
    obtain ⟨he, hn⟩ := w.inquiryEvents_unanswered h
    rw [h] at hr
    refine ⟨hscript, by rw [hr, ha, hn]; rfl, by rw [hr, he]; rfl, ?_⟩
    rw [he, ha, hn]
    exact .sent p request (.nil _)
  | some r =>
    obtain ⟨he, hn⟩ := w.inquiryEvents_answered h
    have hnotes := exchangeNotes_asides w request r
    rw [h] at hr
    refine ⟨hscript, by rw [hr, ha, hn]; rfl, ?_, ?_⟩
    · rw [hr, he]
      change (r, s.answered) ::
        Trace.arrivals (w.exchangeNotes request r ++ [.closed s.answered]) = [(r, s.answered)]
      rw [arrivals_append, arrivals_of_asides hnotes]
      rfl
    · rw [he, ha, hn]
      exact .sent p request (.reply r hnotes (.nil _))

end Settled

theorem settled_law (w : Wire) (timeout : Option Binary64) : Law w timeout Settled where
  remarks := fun h => Settled.asides fun e he => Event.isAside_of_isRemark (h e he)
  inquiry := fun {p request} _ _ _ => Settled.inquiry w p request
  append := Settled.append

/-- All the replies that a script gave were closed exactly once by the end: they came with the
numbers from zero on, and nothing was closed but these. -/
structure ClosedOnce (script : List Answer) (events : List Event) (answered : Nat) : Prop where
  arrivals : arrivals events = (replies script events).zipIdx
  answered_eq : answered = (replies script events).length
  closings : closings answered events = List.replicate answered 1
  others : ∀ i, answered ≤ i → events.count (.closed i) = 0
  /-- Each was closed after it had come, and before another request was sent. -/
  inTurn : Closes 0 events answered

theorem ClosedOnce.nothing (script : List Answer) : ClosedOnce script [] 0 :=
  ⟨rfl, rfl, rfl, fun _ _ => rfl, .nil 0⟩

theorem Settled.closedOnce {s left : Standing} {events : List Event} (h : Settled s events left)
    (h0 : s.answered = 0) : ClosedOnce s.script events left.answered where
  arrivals := by rw [h.arrivals, h0]
  answered_eq := by rw [h.answered, h0, Nat.zero_add]
  closings := by
    refine List.eq_replicate_iff.mpr ⟨by simp [Trace.closings], fun k hk => ?_⟩
    obtain ⟨i, hi, rfl⟩ := List.mem_map.mp hk
    rw [h.closes.count, h0, if_pos ⟨Nat.zero_le i, List.mem_range.mp hi⟩]
  others i hi := by
    rw [h.closes.count, if_neg]
    omega
  inTurn := h0 ▸ h.closes

end Trace

open Trace

theorem Client.openingEvents_asides (settings : Settings) :
    ∀ e ∈ Client.openingEvents settings, e.isAside = true := by
  intro e he
  obtain rfl | he := List.mem_cons.mp he
  · rfl
  · split at he
    · cases List.mem_singleton.mp he
      rfl
    · cases he

/-- Each step of a client closes the replies that its script gave. -/
theorem Client.run_closedOnce (c : Client) (steps : List (Operation × List Answer)) :
    List.Forall₂ (fun step o => ClosedOnce step.2 o.events o.standing.answered) steps
      (c.run steps) := by
  refine (Law.steps c (settled_law c.wire) steps).imp fun _ _ ⟨s, hscript, h0, hs⟩ => ?_
  rw [← hscript]
  exact hs.closedOnce h0

namespace CommandLine

namespace Run

variable (ending : Ending) (answered : Nat)

theorem events_append (a b : List Act) :
    (⟨ending, a ++ b, answered⟩ : Run).events =
      (⟨ending, a, answered⟩ : Run).events ++ (⟨ending, b, answered⟩ : Run).events :=
  List.filterMap_append

theorem events_did (events : List Event) :
    (⟨ending, events.map .did, answered⟩ : Run).events = events := by
  unfold Run.events
  rw [List.filterMap_map]
  exact List.filterMap_some

theorem events_shown (display : Except Fault Listing.Display) :
    (⟨ending, (shown display).2, answered⟩ : Run).events = [] := by
  cases display with
  | ok d => cases d <;> rfl
  | error fault => rfl

/-- Of what follows the work of a command, nothing is an event but the end of the client. -/
theorem events_conclude (command : Command) (choices : Choices) (result : Except Fault Json) :
    (⟨ending, (conclude command choices result).2, answered⟩ : Run).events = [.disconnected] := by
  cases result with
  | ok value =>
    change (⟨ending, [.did .disconnected] ++ (shown (display command choices value)).2, answered⟩ :
      Run).events = [.disconnected]
    rw [events_append, events_shown]
    rfl
  | error fault =>
    unfold conclude
    dsimp only
    cases fault.failure? <;> rfl

end Run

/-- A command opens a client, lets it work, and gives it up, whatever the outcome. -/
theorem perform_of_job (command : Command) {around : Surroundings} {choices : Choices} {job : Job}
    (h : choices.job around = .ok job) :
    let client := Client.opened around.store around.codecs none job.settings
    let o := client.work (work client.wire job (operation command choices job.payload))
      around.script
    (perform around command choices).events =
        Client.openingEvents (Client.settingsOf job.settings) ++ o.events ++ [.disconnected] ∧
      (perform around command choices).answered = o.standing.answered := by
  intro client o
  have hp : perform around command choices =
      ⟨(conclude command choices o.result).1,
        (Client.openingEvents (Client.settingsOf job.settings) ++ o.events).map .did ++
          (conclude command choices o.result).2, o.standing.answered⟩ := by
    unfold perform
    rw [h]
  rw [hp, Run.events_append, Run.events_did, Run.events_conclude]
  exact ⟨rfl, rfl⟩

/-- Each command closes the replies that its script gave. -/
theorem run_closedOnce (around : Surroundings) (words : List Text) :
    ClosedOnce around.script (run around words).events (run around words).answered := by
  unfold run
  cases understand around.environment words with
  | error m => exact .nothing around.script
  | ok chosen =>
    obtain ⟨command, choices⟩ := chosen
    dsimp only
    cases hj : choices.job around with
    | error refusal =>
      unfold perform
      rw [hj]
      exact .nothing around.script
    | ok job =>
      obtain ⟨he, ha⟩ := perform_of_job command hj
      rw [he, ha]
      let client := Client.opened around.store around.codecs none job.settings
      have hopening : Settled ⟨client.desk, none, around.script, 0⟩
          (Client.openingEvents (Client.settingsOf job.settings))
          ⟨client.desk, none, around.script, 0⟩ :=
        .asides (Client.openingEvents_asides _) rfl rfl
      have hwork := Law.work (settled_law client.wire) job (operation command choices job.payload)
        ⟨client.desk, none, around.script, 0⟩
      have hend := hopening.append (hwork.append
        (.asides (a := [.disconnected]) (by simp [Event.isAside]) rfl rfl))
      rw [List.append_assoc]
      exact hend.closedOnce rfl

end CommandLine

/-- Every reply is closed exactly once, by each step of a run and by each command, whatever was
answered and however the step or the command ended. -/
theorem replies_closed_once :
    (∀ (c : Client) (steps : List (Operation × List Answer)),
      List.Forall₂ (fun step o => ClosedOnce step.2 o.events o.standing.answered) steps
        (c.run steps)) ∧
    ∀ (around : CommandLine.Surroundings) (words : List Text),
      ClosedOnce around.script (CommandLine.run around words).events
        (CommandLine.run around words).answered :=
  ⟨Client.run_closedOnce, CommandLine.run_closedOnce⟩

end StorageGateway
