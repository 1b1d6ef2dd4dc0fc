import StorageGateway.Proofs.Desks
import StorageGateway.Proofs.Secrecy.Alike

/-! Calls that run in lockstep: from standings that differ in secrets alone, on scripts that do so
where logins take their answers, both do the same as far as anyone can see. -/
namespace StorageGateway

/-- Standings that differ in secrets alone. -/
structure Standing.Alike (s t : Standing) : Prop where
  session : s.desk.current.Alike t.desk.current
  recorder : s.recorder = t.recorder
  answered : s.answered = t.answered

/-- Outcomes that cannot be told apart, with results that are related. -/
structure Outcome.Alike {α β : Type} (R : α → β → Prop) (o : Outcome α) (p : Outcome β) : Prop where
  result : ResultsAlike R o.result p.result
  events : Trace.masked o.events = Trace.masked p.events
  standing : o.standing.Alike p.standing

theorem Outcome.Alike.purposes_eq {α β : Type} {R : α → β → Prop} {o : Outcome α} {p : Outcome β}
    (h : o.Alike R p) : Trace.purposes o.events = Trace.purposes p.events := by
  rw [← Trace.purposes_masked, h.events, Trace.purposes_masked]

namespace Call

variable {α β γ δ : Type} {codecs : Bytes.Codecs} {R : α → γ → Prop} {T : β → δ → Prop}

/-- Two calls that take the same steps from standings and scripts that cannot be told apart. -/
def Lockstep (codecs : Bytes.Codecs) (R : α → γ → Prop) (call : Call α) (other : Call γ) : Prop :=
  ∀ s t : Standing, s.Alike t →
    ScriptsAlike codecs Text.FitsBytes (Trace.purposes (call s).events) s.script t.script →
    (call s).Alike R (other t)

namespace Lockstep

/-- The scripts that two calls leave are alike as far as the next ones take them. -/
theorem scripts_after {call : Call α} {other : Call γ} (hp : Paced call) (hq : Paced other)
    {s t : Standing} (h : (call s).Alike R (other t)) {later : List Purpose}
    (hs : ScriptsAlike codecs Text.FitsBytes (Trace.purposes (call s).events ++ later)
      s.script t.script) :
    ScriptsAlike codecs Text.FitsBytes later
      (call s).standing.script (other t).standing.script := by
  rw [hp s, hq t, ← h.purposes_eq]
  exact ((scriptsAlike_append _ _ _ _).mp hs).2

theorem pure {a : α} {c : γ} (h : R a c) : Lockstep codecs R (Pure.pure a) (Pure.pure c) :=
  fun _ _ hst _ => ⟨h, rfl, hst⟩

theorem fail (fault : Fault) : Lockstep codecs R (fail fault : Call α) (Call.fail fault : Call γ) :=
  fun _ _ hst _ => ⟨rfl, rfl, hst⟩

theorem ofExcept {x : Except Fault α} {y : Except Fault γ} (h : ResultsAlike R x y) :
    Lockstep codecs R (ofExcept x) (Call.ofExcept y) :=
  fun _ _ hst _ => ⟨h, rfl, hst⟩

theorem emit (e : Event) : Lockstep codecs Eq (emit e) (Call.emit e) :=
  fun _ _ hst _ => ⟨rfl, rfl, hst⟩

theorem note (n : Notice) : Lockstep codecs Eq (note n) (Call.note n) := emit _

theorem session : Lockstep codecs Session.Alike session session :=
  fun _ _ hst _ => ⟨hst.session, rfl, hst⟩

theorem bind {call : Call α} {other : Call γ} {next : α → Call β} {nextOther : γ → Call δ}
    (hp : Paced call) (hq : Paced other) (h : Lockstep codecs R call other)
    (hn : ∀ a c, R a c → Lockstep codecs T (next a) (nextOther c)) :
    Lockstep codecs T (call >>= next) (other >>= nextOther) := by
  intro s t hst hs
  cases hr : (call s).result with
  | error e =>
    rw [bind_of_error hr] at hs ⊢
    have ho := h s t hst hs
    have hr' := ho.result.of_error hr
    rw [bind_of_error hr']
    exact ⟨.of_errors rfl rfl, ho.events, ho.standing⟩
  | ok a =>
    rw [bind_of_ok hr] at hs ⊢
    rw [Trace.purposes_append] at hs
    have ho := h s t hst ((scriptsAlike_append _ _ _ _).mp hs).1
    obtain ⟨c, hr', hac⟩ := ho.result.of_ok hr
    have hn' := hn a c hac _ _ ho.standing (scripts_after hp hq ho hs)
    rw [bind_of_ok hr']
    refine ⟨hn'.result, ?_, hn'.standing⟩
    rw [Trace.masked_append, Trace.masked_append, ho.events, hn'.events]

/-- Work that begins with a look at the session sees two that cannot be told apart. -/
theorem session_bind {next : Session → Call β} {nextOther : Session → Call δ}
    (hn : ∀ s t : Session, s.Alike t → Lockstep codecs T (next s) (nextOther t)) :
    Lockstep codecs T (Call.session >>= next) (Call.session >>= nextOther) :=
  session.bind Built.session.paced Built.session.paced hn

theorem map {call : Call α} {other : Call γ} (f : α → β) (g : γ → δ)
    (h : Lockstep codecs R call other)
    (hf : ∀ a c, R a c → T (f a) (g c)) : Lockstep codecs T (f <$> call) (g <$> other) := by
  intro s t hst hs
  rw [map_apply] at hs ⊢
  rw [map_apply]
  have ho := h s t hst hs
  refine ⟨?_, ho.events, ho.standing⟩
  cases hr : (call s).result with
  | ok a =>
    obtain ⟨c, hr', hac⟩ := ho.result.of_ok hr
    exact .of_oks rfl (by rw [hr']; rfl) (hf a c hac)
  | error e => exact .of_errors rfl (by rw [ho.result.of_error hr]; rfl)

theorem rescue {call : Call α} {other : Call γ} {handler : Fault → Call α}
    {handlerOther : Fault → Call γ} (hp : Paced call) (hq : Paced other)
    (h : Lockstep codecs R call other)
    (hh : ∀ fault, Lockstep codecs R (handler fault) (handlerOther fault)) :
    Lockstep codecs R (rescue call handler) (Call.rescue other handlerOther) := by
  intro s t hst hs
  cases hr : (call s).result with
  | ok a =>
    rw [rescue_of_ok hr] at hs ⊢
    have ho := h s t hst hs
    obtain ⟨c, hr', -⟩ := ho.result.of_ok hr
    rw [rescue_of_ok hr']
    exact ho
  | error e =>
    rw [rescue_of_error hr] at hs ⊢
    rw [Trace.purposes_append] at hs
    have ho := h s t hst ((scriptsAlike_append _ _ _ _).mp hs).1
    have hn := hh e _ _ ho.standing (scripts_after hp hq ho hs)
    rw [rescue_of_error (ho.result.of_error hr)]
    refine ⟨hn.result, ?_, hn.standing⟩
    rw [Trace.masked_append, Trace.masked_append, ho.events, hn.events]

theorem mapFault {call : Call α} {other : Call γ} (f : Fault → Fault)
    (h : Lockstep codecs R call other) :
    Lockstep codecs R (mapFault f call) (Call.mapFault f other) := by
  intro s t hst hs
  have ho := h s t hst hs
  refine ⟨?_, ho.events, ho.standing⟩
  simp only [mapFault_apply]
  cases hr : (call s).result with
  | ok a =>
    obtain ⟨c, hr', hac⟩ := ho.result.of_ok hr
    exact .of_oks rfl (by rw [hr']; rfl) hac
  | error e => exact .of_errors rfl (by rw [ho.result.of_error hr]; rfl)

theorem always {call : Call α} {other : Call γ} {last lastOther : Call Unit} (hp : Paced call)
    (hq : Paced other) (h : Lockstep codecs R call other) (hl : Lockstep codecs Eq last lastOther) :
    Lockstep codecs R (always call last) (Call.always other lastOther) := by
  intro s t hst hs
  rw [always_events, Trace.purposes_append] at hs
  have ho := h s t hst ((scriptsAlike_append _ _ _ _).mp hs).1
  have hl' := hl _ _ ho.standing (scripts_after hp hq ho hs)
  refine ⟨?_, ?_, hl'.standing⟩
  · simp only [Call.always]
    cases hr : (last (call s).standing).result with
    | ok u =>
      obtain ⟨v, hr', -⟩ := hl'.result.of_ok hr
      rw [hr']
      exact ho.result
    | error e =>
      rw [hl'.result.of_error hr]
      exact .of_errors rfl rfl
  · rw [always_events, always_events, Trace.masked_append, Trace.masked_append, ho.events,
      hl'.events]

/-- The values of calls in lockstep may be read more roughly. -/
theorem mono {call : Call α} {other : Call γ} {S : α → γ → Prop} (h : Lockstep codecs R call other)
    (hr : ∀ a c, R a c → S a c) : Lockstep codecs S call other := by
  intro s t hst hs
  have ho := h s t hst hs
  exact ⟨ho.result.mono hr, ho.events, ho.standing⟩

end Lockstep

end Call

end StorageGateway
