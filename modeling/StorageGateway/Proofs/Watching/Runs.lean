import StorageGateway.Proofs.Closings
import StorageGateway.Proofs.Watching.Twins

/-! Runs that are watched. A client that shows its exchanges, or whose calls a recorder times, does
what it does otherwise, step after step; and what it shows is every exchange in which a reply came,
the request before the reply, and nothing else. -/
namespace StorageGateway

namespace Exchange

/-- What is shown of an exchange: the request and the reply, once the reply has come. -/
def shown (e : Exchange) : List Notice :=
  match e.reply? with
  | some r =>
    [.requestSent (Dump.request e.request.method e.request.url (Headers.folded e.request.headers)
        (e.request.body.map .bytes)),
      .replyArrived (Dump.reply r.status r.reason r.headers)]
  | none => []

end Exchange

namespace Trace

/-- What is said about the exchanges themselves. -/
def wireNotices (events : List Event) : List Notice :=
  (notices events).filter fun n => n.source = .wire

/-- What is said about everything else. -/
def otherNotices (events : List Event) : List Notice :=
  (notices events).filter fun n => n.source ≠ .wire

/-- Every exchange with a reply is shown, if exchanges are to be shown. -/
def Shows (showHttp : Bool) (script : List Answer) (events : List Event) : Prop :=
  wireNotices events = if showHttp then (exchanges script events).flatMap Exchange.shown else []

@[simp] theorem wireNotices_append (a b : List Event) :
    wireNotices (a ++ b) = wireNotices a ++ wireNotices b := by
  simp [wireNotices]

end Trace

/-- Settled work in which every exchange with a reply is shown, if exchanges are to be shown. -/
structure Wire.Tells (w : Wire) (s : Standing) (events : List Event) (left : Standing) : Prop
    extends Trace.Settled s events left where
  shows : Trace.Shows w.showHttp s.script events

namespace Wire.Tells

variable {w : Wire} {s middle left : Standing} {a b events : List Event}

theorem remarks (h : ∀ e ∈ events, e.isRemark = true) (hs : left.script = s.script)
    (ha : left.answered = s.answered) : w.Tells s events left := by
  have hasides (e : Event) (he : e ∈ events) : e.isAside = true :=
    Event.isAside_of_isRemark (h e he)
  have hn : Trace.wireNotices events = [] := by
    refine List.filter_eq_nil_iff.mpr fun n hn => ?_
    obtain ⟨e, he, hen⟩ := List.mem_filterMap.mp hn
    have hr := (Bool.and_eq_true_iff.mp (h e he)).2
    rw [hen] at hr
    simpa using hr
  refine ⟨.asides hasides hs ha, ?_⟩
  rw [Trace.Shows, hn, Trace.exchanges_of_all_silent _ fun e he =>
    Trace.purpose?_of_aside (hasides e he)]
  simp

theorem inquiry (w : Wire) (p : Purpose) (request : Request) (hs : left.script = s.next.script)
    (ha : left.answered = s.next.answered) : w.Tells s (w.inquiryEvents p request s) left := by
  refine ⟨.inquiry w p request hs ha, ?_⟩
  rw [Trace.Shows, exchanges_inquiryEvents]
  cases h : Exchange.reply? ⟨p, request, s.script.head?⟩ with
  | none =>
    rw [(w.inquiryEvents_unanswered h).1]
    simp [Exchange.shown, h, Trace.wireNotices, Trace.notices, Event.notice?]
  | some r =>
    rw [(w.inquiryEvents_answered h).1]
    unfold exchangeNotes
    simp only [List.flatMap_cons, List.flatMap_nil, Exchange.shown, h]
    cases w.showHttp <;> rfl

theorem append (ha : w.Tells s a middle) (hb : w.Tells middle b left) :
    w.Tells s (a ++ b) left := by
  refine ⟨ha.toSettled.append hb.toSettled, ?_⟩
  have hshows := hb.shows
  rw [ha.script] at hshows
  unfold Trace.Shows at *
  rw [Trace.wireNotices_append, ha.shows, hshows, Trace.exchanges_append]
  cases w.showHttp <;> simp

end Wire.Tells

theorem Wire.tells_law (w : Wire) (timeout : Option Binary64) : Law w timeout w.Tells where
  remarks := .remarks
  inquiry := fun {p request} _ _ _ => .inquiry w p request
  append := .append

/-- Outcomes between which only a watcher could tell. -/
structure Outcome.Matches {α : Type} (o p : Outcome α) : Prop where
  result : o.result = p.result
  requests : Trace.requests o.events = Trace.requests p.events
  arrivals : Trace.arrivals o.events = Trace.arrivals p.events
  closings : ∀ answered, Trace.closings answered o.events = Trace.closings answered p.events
  disconnections : Trace.disconnections o.events = Trace.disconnections p.events
  notices : Trace.otherNotices o.events = Trace.otherNotices p.events
  unwatched : Trace.unwatched o.events = Trace.unwatched p.events
  desk : o.standing.desk = p.standing.desk

theorem Outcome.Twins.matches {α : Type} {o p : Outcome α} (h : o.Twins Eq p) :
    o.Matches p := by
  have hnotices : Trace.otherNotices o.events = Trace.otherNotices p.events := by
    unfold Trace.otherNotices Trace.notices
    rw [List.filter_filterMap, List.filter_filterMap]
    refine h.filterMap_eq fun e he => ?_
    cases e with
    | noted n => exact Option.filter_eq_none_iff.mpr fun m hm => by cases hm; simpa [Event.isWatching] using he
    | _ => rfl
  have harrivals : Trace.arrivals o.events = Trace.arrivals p.events := by
    refine h.filterMap_eq fun e he => ?_
    cases e with
    | answered index r => cases he
    | _ => rfl
  exact ⟨h.result, h.requests_eq, harrivals,
    fun answered => List.map_congr_left fun i _ => h.count_eq rfl, h.count_eq rfl, hnotices,
    h.events, h.standing.desk⟩

namespace Client

theorem run_twins {c d : Client} (shows : Bool) (hw : d.wire = c.wire.showing shows)
    (hd : c.desk = d.desk) (hr : c.recorder = some .failing ↔ d.recorder = some .failing)
    (steps : List (Operation × List Answer)) :
    List.Forall₂ Outcome.Matches (c.run steps) (d.run steps) := by
  induction steps generalizing c d with
  | nil => exact .nil
  | cons step steps ih =>
    obtain ⟨op, script⟩ := step
    have hstep : (c.step op script).Twins Eq (d.step op script) := by
      unfold step
      rw [hw]
      exact Operation.perform_twins c.wire shows Desk.bisimulation_eq op _ _ ⟨hd, hr, rfl, rfl⟩
    exact .cons hstep.matches (ih hw hstep.standing.desk hstep.standing.recorder)

/-- Watching a client changes nothing. -/
theorem watching_changes_nothing (store : TrustStore) (codecs : Bytes.Codecs) (given : Settings)
    (shows : Bool) {recorder other : Option Recorder}
    (h : recorder = some .failing ↔ other = some .failing)
    (steps : List (Operation × List Answer)) :
    let plain := opened store codecs recorder given
    let watched := opened store codecs other { given with showHttp := shows }
    openingEvents (settingsOf given) = openingEvents (settingsOf { given with showHttp := shows }) ∧
      List.Forall₂ Outcome.Matches (plain.run steps) (watched.run steps) ∧
      List.Forall₂ (fun step o => Trace.Shows given.showHttp step.2 o.events) steps
        (plain.run steps) ∧
      List.Forall₂ (fun step o => Trace.Shows shows step.2 o.events) steps (watched.run steps) := by
  intro plain watched
  have hshows (c : Client) :
      List.Forall₂ (fun step o => Trace.Shows c.wire.showHttp step.2 o.events) steps
        (c.run steps) := by
    refine (Law.steps c c.wire.tells_law steps).imp fun _ _ ⟨s, hscript, _, htells⟩ => ?_
    rw [← hscript]
    exact htells.shows
  exact ⟨rfl, run_twins (c := plain) (d := watched) shows rfl rfl h steps, hshows plain,
    hshows watched⟩

/-- A login and a call whose token has expired, once unwatched and once with all that can be
watched: four exchanges are shown then. -/
theorem watching_changes_nothing_on_renewal :
    let given : Settings := { endpoint := "https://gateway", version := some "3.5" }
    let login : Answer := .reply { status := 200, body := Bytes.ofAscii "tok" }
    let steps : List (Operation × List Answer) :=
      [(.authenticate Sample.credentials none, [login]),
        (.execute Sample.order, [.reply { status := 401 }, login, .reply { status := 200 }])]
    let plain := opened {} .listed none given
    let watched := opened {} .listed (some .keeping) { given with showHttp := true }
    ((watched.run steps).map fun o => (Trace.wireNotices o.events).length) = [2, 6] ∧
      openingEvents (settingsOf given) =
        openingEvents (settingsOf { given with showHttp := true }) ∧
      List.Forall₂ Outcome.Matches (plain.run steps) (watched.run steps) ∧
      List.Forall₂ (fun step o => Trace.Shows false step.2 o.events) steps (plain.run steps) ∧
      List.Forall₂ (fun step o => Trace.Shows true step.2 o.events) steps (watched.run steps) := by
  intro given login steps plain watched
  exact ⟨by decide +kernel, watching_changes_nothing {} .listed given true (by simp) steps⟩

end Client

end StorageGateway
