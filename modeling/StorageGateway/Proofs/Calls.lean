import StorageGateway.Client.Trace

/-! What the ways of putting calls together do to a standing. Each law gives the whole outcome, so
that later proofs read results, events and standings off it and open no call again. -/
namespace StorageGateway.Call

variable {α β : Type}

@[simp] theorem fail_apply (fault : Fault) (s : Standing) :
    (fail fault : Call α) s = ⟨.error fault, [], s⟩ := rfl

@[simp] theorem ofExcept_apply (r : Except Fault α) (s : Standing) :
    ofExcept r s = ⟨r, [], s⟩ := rfl

@[simp] theorem emit_apply (e : Event) (s : Standing) : emit e s = ⟨.ok (), [e], s⟩ := rfl

@[simp] theorem note_apply (n : Notice) (s : Standing) : note n s = ⟨.ok (), [.noted n], s⟩ := rfl

@[simp] theorem session_apply (s : Standing) : session s = ⟨.ok s.desk.current, [], s⟩ := rfl

@[simp] theorem changeDesk_apply (f : Desk → Desk) (s : Standing) :
    changeDesk f s = ⟨.ok (), [], { s with desk := f s.desk }⟩ := rfl

theorem bind_of_ok {call : Call α} {next : α → Call β} {s : Standing} {a : α}
    (h : (call s).result = .ok a) :
    (call >>= next) s = { next a (call s).standing with
      events := (call s).events ++ (next a (call s).standing).events } := by
  simp only [bind_apply, continue?, h]

theorem bind_of_error {call : Call α} {next : α → Call β} {s : Standing} {fault : Fault}
    (h : (call s).result = .error fault) :
    (call >>= next) s = ⟨.error fault, (call s).events, (call s).standing⟩ := by
  simp only [bind_apply, continue?, h]

theorem bind_assoc {γ : Type} (call : Call α) (next : α → Call β) (last : β → Call γ) :
    call >>= next >>= last = call >>= fun a => next a >>= last := by
  funext s
  cases h : (call s).result with
  | error fault =>
    have hn : ((call >>= next) s).result = .error fault := by rw [bind_of_error h]
    rw [bind_of_error h, bind_of_error hn, bind_of_error h]
  | ok a =>
    rw [bind_of_ok h]
    cases hn : (next a (call s).standing).result with
    | error fault =>
      have hb : ((call >>= next) s).result = .error fault := by rw [bind_of_ok h]; exact hn
      rw [bind_of_error hb, bind_of_error hn, bind_of_ok h]
    | ok b =>
      have hb : ((call >>= next) s).result = .ok b := by rw [bind_of_ok h]; exact hn
      rw [bind_of_ok hb, bind_of_ok hn, bind_of_ok h]
      simp only [List.append_assoc]

@[simp] theorem map_apply (f : α → β) (call : Call α) (s : Standing) :
    (f <$> call) s = ⟨(call s).result.map f, (call s).events, (call s).standing⟩ := by
  change continue? (call s) (fun a => pure (f a)) = _
  unfold continue?
  cases h : (call s).result with
  | ok a => simp [Except.map]
  | error fault => simp [Except.map]

@[simp] theorem mapError_ok (f : Fault → Fault) (a : α) :
    (Except.ok a : Except Fault α).mapError f = .ok a := rfl

@[simp] theorem mapError_error (f : Fault → Fault) (fault : Fault) :
    (Except.error fault : Except Fault α).mapError f = .error (f fault) := rfl

@[simp] theorem mapFault_apply (f : Fault → Fault) (call : Call α) (s : Standing) :
    mapFault f call s = { call s with result := (call s).result.mapError f } := rfl

theorem rescue_of_ok {call : Call α} {handler : Fault → Call α} {s : Standing} {a : α}
    (h : (call s).result = .ok a) : rescue call handler s = call s := by
  simp only [rescue, h]

theorem rescue_of_error {call : Call α} {handler : Fault → Call α} {s : Standing} {fault : Fault}
    (h : (call s).result = .error fault) :
    rescue call handler s = { handler fault (call s).standing with
      events := (call s).events ++ (handler fault (call s).standing).events } := by
  simp only [rescue, h]

@[simp] theorem always_events (call : Call α) (last : Call Unit) (s : Standing) :
    (always call last s).events = (call s).events ++ (last (call s).standing).events := rfl

@[simp] theorem always_standing (call : Call α) (last : Call Unit) (s : Standing) :
    (always call last s).standing = (last (call s).standing).standing := rfl

theorem always_result_of_ok {call : Call α} {last : Call Unit} {s : Standing}
    (h : (last (call s).standing).result = .ok ()) :
    (always call last s).result = (call s).result := by
  simp only [always, h]

end StorageGateway.Call
