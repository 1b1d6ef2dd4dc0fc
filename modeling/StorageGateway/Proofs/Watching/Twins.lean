import StorageGateway.Operation
import StorageGateway.Proofs.Desks

/-! Calls that differ only in who watches them. Whether exchanges are shown, and whether a recorder
keeps the times, is heard by nobody but the watcher; so a call that is watched and its twin that is
not end alike, do the same before the gateway and leave the same behind. The desks of twins may
differ as well, as long as no request shows it. -/
namespace StorageGateway

/-- A relation of desks that no request shows, and that every change of a desk keeps. -/
structure Desk.Bisimulation (D : Desk → Desk → Prop) : Prop where
  resolve : ∀ {d e}, D d e → ∀ path, d.current.resolve path = e.current.resolve path
  version : ∀ {d e}, D d e → d.current.version = e.current.version
  token : ∀ {d e}, D d e → d.current.token = e.current.token
  credentials : ∀ {d e}, D d e → d.current.credentials = e.current.credentials
  start : ∀ {d e}, D d e → D d.start e.start
  establish : ∀ {d e}, D d e → ∀ token c, D (d.establish token c) (e.establish token c)
  setVersion : ∀ {d e}, D d e → ∀ version, D (d.setVersion version) (e.setVersion version)
  setToken : ∀ {d e}, D d e → ∀ token, D (d.setToken token) (e.setToken token)
  install : ∀ {d e}, D d e → ∀ s, D (d.install s) (e.install s)

theorem Desk.bisimulation_eq : Bisimulation Eq where
  resolve := by rintro d _ rfl path; rfl
  version := by rintro d _ rfl; rfl
  token := by rintro d _ rfl; rfl
  credentials := by rintro d _ rfl; rfl
  start := by rintro d _ rfl; rfl
  establish := by rintro d _ rfl token c; rfl
  setVersion := by rintro d _ rfl version; rfl
  setToken := by rintro d _ rfl token; rfl
  install := by rintro d _ rfl s; rfl

namespace Desk.Bisimulation

variable {D : Desk → Desk → Prop} {d e : Desk}

theorem headers (hD : Bisimulation D) (h : D d e) (defaults : Option Headers) :
    d.current.headers defaults = e.current.headers defaults := by
  unfold Session.headers
  rw [hD.version h, hD.token h]

theorem isVersionKnown (hD : Bisimulation D) (h : D d e) :
    d.current.isVersionKnown = e.current.isVersionKnown := by
  unfold Session.isVersionKnown
  rw [hD.version h]

end Desk.Bisimulation

/-- What only a watcher hears of. -/
def Event.isWatching : Event → Bool
  | noted n => n.source = .wire
  | timed _ => true
  | _ => false

/-- The events as they are when nobody watches. -/
def Trace.unwatched (events : List Event) : List Event := events.filter fun e => !e.isWatching

@[simp] theorem Trace.unwatched_append (a b : List Event) :
    unwatched (a ++ b) = unwatched a ++ unwatched b := List.filter_append a b

/-- Standings of twins: their recorders fail alike. -/
structure Standing.Twins (D : Desk → Desk → Prop) (s t : Standing) : Prop where
  desk : D s.desk t.desk
  recorder : s.recorder = some .failing ↔ t.recorder = some .failing
  script : s.script = t.script
  answered : s.answered = t.answered

structure Outcome.Twins {α : Type} (D : Desk → Desk → Prop) (o p : Outcome α) : Prop where
  result : o.result = p.result
  events : Trace.unwatched o.events = Trace.unwatched p.events
  standing : o.standing.Twins D p.standing

namespace Outcome.Twins

variable {α β : Type} {D : Desk → Desk → Prop} {o p : Outcome α}

/-- What can be read off the events without regard to watchers. -/
theorem filterMap_eq (h : o.Twins D p) {f : Event → Option β}
    (hf : ∀ e, e.isWatching = true → f e = none) :
    o.events.filterMap f = p.events.filterMap f := by
  have hunwatched (events : List Event) :
      (Trace.unwatched events).filterMap f = events.filterMap f := by
    rw [Trace.unwatched, List.filterMap_filter]
    congr
    funext e
    cases he : e.isWatching with
    | true => simp [hf e he]
    | false => simp
  rw [← hunwatched, h.events, hunwatched]

theorem count_eq (h : o.Twins D p) {e : Event} (he : e.isWatching = false) :
    o.events.count e = p.events.count e := by
  have hunwatched (events : List Event) : (Trace.unwatched events).count e = events.count e :=
    List.count_filter (by simp [he])
  rw [← hunwatched, h.events, hunwatched]

theorem requests_eq (h : o.Twins D p) : Trace.requests o.events = Trace.requests p.events := by
  refine h.filterMap_eq fun e he => ?_
  cases e with
  | sent p request => cases he
  | _ => rfl

end Outcome.Twins

/-- The wire of a client that shows its exchanges, or does not. -/
def Wire.showing (w : Wire) (showHttp : Bool) : Wire := { w with showHttp }

namespace Call

variable {α β : Type} {D : Desk → Desk → Prop}

/-- Two calls that come to the same from standings of twins. -/
def Twins (D : Desk → Desk → Prop) (call other : Call α) : Prop :=
  ∀ s t : Standing, s.Twins D t → (call s).Twins D (other t)

namespace Twins

theorem ofExcept (x : Except Fault α) : Twins D (Call.ofExcept x) (Call.ofExcept x) :=
  fun _ _ h => ⟨rfl, rfl, h⟩

theorem pure (a : α) : Twins D (Pure.pure a) (Pure.pure a) := ofExcept (.ok a)

theorem fail (fault : Fault) : Twins D (Call.fail fault : Call α) (Call.fail fault) :=
  ofExcept (.error fault)

theorem emit (e : Event) : Twins D (Call.emit e) (Call.emit e) := fun _ _ h => ⟨rfl, rfl, h⟩

theorem note (n : Notice) : Twins D (Call.note n) (Call.note n) := emit _

theorem changeDesk {f : Desk → Desk} (hf : ∀ {d e}, D d e → D (f d) (f e)) :
    Twins D (Call.changeDesk f) (Call.changeDesk f) :=
  fun _ _ h => ⟨rfl, rfl, { h with desk := hf h.desk }⟩

theorem setRecorder (recorder : Option Recorder) :
    Twins D (Call.setRecorder recorder) (Call.setRecorder recorder) :=
  fun _ _ h => ⟨rfl, rfl, { h with recorder := Iff.rfl }⟩

theorem bind {call other : Call α} {next nextOther : α → Call β} (h : Twins D call other)
    (hn : ∀ a, Twins D (next a) (nextOther a)) : Twins D (call >>= next) (other >>= nextOther) := by
  intro s t hst
  obtain ⟨hr, he, hs⟩ := h s t hst
  cases hc : (call s).result with
  | ok a =>
    rw [bind_of_ok hc, bind_of_ok (hr.symm.trans hc)]
    obtain ⟨hr', he', hs'⟩ := hn a _ _ hs
    exact ⟨hr', by simp only [Trace.unwatched_append, he, he'], hs'⟩
  | error fault =>
    rw [bind_of_error hc, bind_of_error (hr.symm.trans hc)]
    exact ⟨rfl, he, hs⟩

theorem map {call other : Call α} (f : α → β) (h : Twins D call other) :
    Twins D (f <$> call) (f <$> other) := bind h fun a => pure (f a)

/-- What depends on the session may do so through what twins have in common. -/
theorem session_bind {next nextOther : Session → Call β}
    (h : ∀ d e, D d e → Twins D (next d.current) (nextOther e.current)) :
    Twins D (session >>= next) (session >>= nextOther) := by
  intro s t hst
  simp only [bind_apply, session_apply, continue?_ok, List.nil_append]
  exact h s.desk t.desk hst.desk s t hst

theorem rescue {call other : Call α} {handler handlerOther : Fault → Call α}
    (h : Twins D call other) (hh : ∀ fault, Twins D (handler fault) (handlerOther fault)) :
    Twins D (rescue call handler) (Call.rescue other handlerOther) := by
  intro s t hst
  have hout := h s t hst
  cases hc : (call s).result with
  | ok a =>
    rw [rescue_of_ok hc, rescue_of_ok (hout.result.symm.trans hc)]
    exact hout
  | error fault =>
    rw [rescue_of_error hc, rescue_of_error (hout.result.symm.trans hc)]
    obtain ⟨hr', he', hs'⟩ := hh fault _ _ hout.standing
    exact ⟨hr', by simp only [Trace.unwatched_append, hout.events, he'], hs'⟩

theorem mapFault {call other : Call α} (f : Fault → Fault) (h : Twins D call other) :
    Twins D (mapFault f call) (Call.mapFault f other) := by
  intro s t hst
  obtain ⟨hr, he, hs⟩ := h s t hst
  exact ⟨congrArg (Except.mapError f) hr, he, hs⟩

theorem always {call other : Call α} {last lastOther : Call Unit} (h : Twins D call other)
    (hl : Twins D last lastOther) : Twins D (always call last) (Call.always other lastOther) := by
  intro s t hst
  obtain ⟨hr, he, hs⟩ := h s t hst
  obtain ⟨hr', he', hs'⟩ := hl _ _ hs
  refine ⟨?_, by simp only [always_events, Trace.unwatched_append, he, he'], hs'⟩
  simp only [Call.always, hr, hr']

theorem ite {c : Prop} [Decidable c] {a b a' b' : Call α} (ha : Twins D a a') (hb : Twins D b b') :
    Twins D (if c then a else b) (if c then a' else b') := by
  split
  · exact ha
  · exact hb

end Twins

end Call

open Call

variable {α : Type} {D : Desk → Desk → Prop} (w : Wire) (shows : Bool)

/-- Showing an exchange is heard by the watcher alone. -/
theorem Wire.send_twins (p : Purpose) (request : Request) :
    Twins D (w.send p request) ((w.showing shows).send p request) := by
  rintro ⟨desk, recorder, script, answered⟩ ⟨desk', recorder', _, _⟩ ⟨hd, hr, rfl, rfl⟩
  cases script with
  | nil => exact ⟨rfl, rfl, hd, hr, rfl, rfl⟩
  | cons answer rest =>
    cases answer with
    | unreachable why text => exact ⟨rfl, rfl, hd, hr, rfl, rfl⟩
    | crash why text => exact ⟨rfl, rfl, hd, hr, rfl, rfl⟩
    | reply r =>
      obtain ⟨verify, timeout, defaultHeaders, shown⟩ := w
      cases shown <;> cases shows <;> exact ⟨rfl, rfl, hd, hr, rfl, rfl⟩

namespace Delivery

theorem read_twins (d : Delivery) (reading : Reply → Except Fault α) :
    Twins D (d.read reading) (d.read reading) := .bind (.emit _) fun _ => .ofExcept _

theorem reject_twins (d : Delivery) : Twins D (d.reject : Call α) d.reject :=
  .bind (d.read_twins _) fun failure => .fail (.ofFailure failure)

end Delivery

variable (hD : Desk.Bisimulation D)

include hD

namespace Login

variable (timeout : Option Binary64) (c : Credentials)

theorem recordVersion_twins (raw : Text) : Twins D (recordVersion raw) (recordVersion raw) :=
  .bind (.changeDesk fun h => hD.setVersion h _) fun _ => .bind (.note _) fun _ => .pure _

theorem askVersion_twins : Twins D (askVersion w timeout) (askVersion (w.showing shows) timeout) := by
  refine .session_bind fun d e h => ?_
  rw [hD.headers h, hD.resolve h]
  refine .bind (.ofExcept _) fun headers => .bind (.ofExcept _) fun url =>
    .bind (w.send_twins shows _ _) fun delivery => .ite ?_ delivery.reject_twins
  exact .bind (delivery.read_twins _) fun raw => recordVersion_twins hD raw

theorem discoverVersion_twins (refresh : Bool) :
    Twins D (discoverVersion w refresh timeout)
      (discoverVersion (w.showing shows) refresh timeout) := by
  refine .session_bind fun d e h => ?_
  rw [hD.isVersionKnown h, hD.version h]
  exact .ite (.pure _) (askVersion_twins w shows hD timeout)

omit hD in
theorem rejectLogin_twins (d : Delivery) : Twins D (rejectLogin d : Call α) (rejectLogin d) :=
  .bind (d.read_twins _) fun _ => .ite (.fail _) (.fail _)

theorem exchange_twins : Twins D (exchange w c timeout) (exchange (w.showing shows) c timeout) := by
  refine .bind (.changeDesk hD.start) fun _ => .session_bind fun d e h => ?_
  rw [hD.version h, hD.resolve h]
  refine .bind (.ofExcept _) fun headers => .bind (.ofExcept _) fun url =>
    .bind (w.send_twins shows _ _) fun delivery => .ite ?_ (rejectLogin_twins delivery)
  refine .bind (delivery.read_twins _) fun token => .ite (.fail _) ?_
  exact .bind (.changeDesk fun h => hD.establish h token c) fun _ =>
    .bind (.note _) fun _ => .pure token

theorem authenticate_twins :
    Twins D (authenticate w c timeout) (authenticate (w.showing shows) c timeout) := by
  refine .bind (exchange_twins w shows hD timeout c) fun token => .session_bind fun d e h => ?_
  rw [hD.isVersionKnown h]
  refine .ite (.pure token) ?_
  exact .bind (.mapFault _ (discoverVersion_twins w shows hD timeout false)) fun _ => .pure token

end Login

namespace Dispatch

variable (order : Order) (reading : Reply → Except Fault α)

theorem attempt_twins :
    Twins D (attempt w order reading) (attempt (w.showing shows) order reading) := by
  refine .session_bind fun d e h => ?_
  rw [hD.resolve h, hD.headers h]
  exact .bind (.ofExcept _) fun url => .bind (.ofExcept _) fun headers => .bind (.note _) fun _ =>
    .bind (w.send_twins shows _ _) fun delivery =>
      .ite (delivery.read_twins reading) delivery.reject_twins

theorem withRenewal_twins (timeout : Option Binary64) {call other : Call α}
    (hc : Twins D call other) :
    Twins D (withRenewal w timeout call) (withRenewal (w.showing shows) timeout other) := by
  refine .rescue hc fun fault => .session_bind fun d e h => ?_
  rw [hD.credentials h]
  cases isUnauthorized fault with
  | false => exact .fail fault
  | true =>
    cases e.current.credentials with
    | none => exact .fail fault
    | some c =>
      exact .bind (.note _) fun _ =>
        .bind (.mapFault _ (Login.authenticate_twins w shows hD timeout c)) fun _ => hc

omit hD in
/-- A recorder is heard of only when it fails. -/
theorem record_twins (operation : Text) : Twins D (record operation) (record operation) := by
  have hunwatched (s : Standing) : Trace.unwatched (record operation s).events = [] := by
    obtain ⟨desk, recorder, script, answered⟩ := s
    cases recorder with
    | none => rfl
    | some r => cases r <;> rfl
  intro s t h
  refine ⟨?_, by rw [hunwatched, hunwatched], by rw [record_standing, record_standing]; exact h⟩
  by_cases hf : s.recorder = some .failing
  · rw [record_result_of_failing hf, record_result_of_failing (h.recorder.mp hf)]
  · rw [record_result hf, record_result (mt h.recorder.mpr hf)]

theorem dispatch_twins :
    Twins D (dispatch w order reading) (dispatch (w.showing shows) order reading) := by
  have hrenewal := withRenewal_twins w shows hD order.timeout
    (attempt_twins w shows hD order reading)
  refine .session_bind fun d e h => ?_
  rw [hD.isVersionKnown h]
  exact .ite hrenewal (.bind (Login.discoverVersion_twins w shows hD order.timeout false) fun _ =>
    hrenewal)

theorem run_twins : Twins D (run w order reading) (run (w.showing shows) order reading) :=
  .always (dispatch_twins w shows hD order reading) (record_twins _)

end Dispatch

namespace Collection

theorem list_twins (c : Collection) : Twins D (list w c) (list (w.showing shows) c) :=
  .bind (Dispatch.run_twins w shows hD _ Reply.json) fun _ => .pure _

theorem follow_twins (rel : Text) (resource : Json) :
    Twins D (follow w rel resource) (follow (w.showing shows) rel resource) :=
  .bind (.ofExcept _) fun _ => Dispatch.run_twins w shows hD _ Reply.json

theorem act_twins (action : Text) (payload resource : Json) :
    Twins D (act w action payload resource) (act (w.showing shows) action payload resource) :=
  .bind (.ofExcept _) fun _ =>
    .bind (Dispatch.run_twins w shows hD _ Reply.json) fun _ => .pure _

end Collection

namespace Operation

theorem currentVersion_twins (refresh : Bool) (timeout : Option Binary64) :
    Twins D (currentVersion w refresh timeout)
      (currentVersion (w.showing shows) refresh timeout) := by
  refine .session_bind fun d e h => ?_
  rw [hD.isVersionKnown h]
  refine .ite ?_ (Login.discoverVersion_twins w shows hD timeout false)
  exact .bind (Dispatch.run_twins w shows hD _ (Reply.scalar w.codecs)) fun raw =>
    Login.recordVersion_twins hD raw

/-- No operation depends on who watches it. -/
theorem perform_twins (op : Operation) : Twins D (op.perform w) (op.perform (w.showing shows)) := by
  have hjson (order : Order) := Dispatch.run_twins w shows hD order Reply.json
  have hscalar (order : Order) := Dispatch.run_twins w shows hD order (Reply.scalar w.codecs)
  cases op with
  | authenticate c timeout => exact .map _ (Login.authenticate_twins w shows hD timeout c)
  | execute order => exact hjson order
  | executeScalar order => exact .map _ (hscalar order)
  | version refresh timeout => exact .map _ (currentVersion_twins w shows hD refresh timeout)
  | discoverVersion refresh timeout =>
    exact .map _ (Login.discoverVersion_twins w shows hD timeout refresh)
  | recordVersion raw => exact .map _ (Login.recordVersion_twins hD raw)
  | setToken token => exact .bind (.changeDesk fun h => hD.setToken h token) fun _ => .pure _
  | useSession given => exact .bind (.changeDesk fun h => hD.install h given) fun _ => .pure _
  | setRecorder recorder => exact .bind (.setRecorder recorder) fun _ => .pure _
  | close => exact .bind (.emit _) fun _ => .pure _
  | visit => exact .bind (.emit _) fun _ => .pure _
  | listSystems => exact Collection.list_twins w shows hD _
  | getSystem href => exact hjson _
  | findSystem id name =>
    exact .bind (Collection.list_twins w shows hD _) fun _ => .ofExcept _
  | systemStatistics system => exact Collection.follow_twins w shows hD _ system
  | listVolumes => exact Collection.list_twins w shows hD _
  | getVolume id => exact hjson _
  | findVolumeId name => exact .map _ (hscalar _)
  | createVolume draft => exact .bind (.ofExcept _) fun _ => hjson _
  | volumeStatistics volume => exact Collection.follow_twins w shows hD _ volume
  | removeVolume volume mode => exact Collection.act_twins w shows hD _ _ volume
  | resizeVolume volume size => exact Collection.act_twins w shows hD _ _ volume

end Operation

end StorageGateway
