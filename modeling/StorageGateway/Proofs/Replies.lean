import StorageGateway.Proofs.Inquiry

/-! What replies come to. A reply without success is an error of the kind that its status means,
whatever its body; only the status for unauthorized means that a token was turned down, and no body
that is read can mean it. -/
namespace StorageGateway

/-- A reply whose body, if it breaks off, does so through an error of the connection. -/
def Reply.IsSound (r : Reply) : Prop := r.broken ≠ some .value

/-- A script all of whose replies are sound. -/
def IsSoundScript (script : List Answer) : Prop :=
  ∀ r : Reply, Answer.reply r ∈ script → r.IsSound

@[simp] theorem isSoundScript_nil : IsSoundScript [] := fun r hr => by cases hr

@[simp] theorem isSoundScript_reply_cons (r : Reply) (script : List Answer) :
    IsSoundScript (.reply r :: script) ↔ r.IsSound ∧ IsSoundScript script := by
  simp [IsSoundScript]

theorem IsSoundScript.drop {script : List Answer} (h : IsSoundScript script) (n : Nat) :
    IsSoundScript (script.drop n) :=
  fun r hr => h r (List.mem_of_mem_drop hr)

theorem IsSoundScript.head? {script : List Answer} (h : IsSoundScript script) {r : Reply}
    (hr : script.head? = some (.reply r)) : r.IsSound :=
  h r (List.mem_of_mem_head? hr)

namespace Reply

variable {α : Type}

@[simp] theorem rejectionFrom_kind (r : Reply) (body : Bytes) :
    (r.rejectionFrom body).kind = rejectionKind r.status := by
  unfold rejectionFrom
  dsimp only
  split <;> rfl

@[simp] theorem rejectionFrom_status (r : Reply) (body : Bytes) :
    (r.rejectionFrom body).status = some r.status := by
  unfold rejectionFrom
  dsimp only
  split <;> rfl

/-- An error that a reply stands for is made from what was read of its body. -/
theorem rejection_eq_ok {r : Reply} {f : Failure} (h : r.rejection = .ok f) :
    ∃ body, f = r.rejectionFrom body := by
  unfold rejection at h
  split at h
  · rename_i body _
    exact ⟨body, by cases h; rfl⟩
  · cases h
  · split at h
    · exact ⟨[], by cases h; rfl⟩
    · cases h

theorem kind_of_rejection {r : Reply} {f : Failure} (h : r.rejection = .ok f) :
    f.kind = rejectionKind r.status := by
  obtain ⟨body, rfl⟩ := rejection_eq_ok h
  exact r.rejectionFrom_kind body

/-- A fault of the reading itself is none of the library's own failures. -/
theorem failure?_of_rejection {r : Reply} {fault : Fault} (h : r.rejection = .error fault) :
    fault.failure? = none := by
  unfold rejection at h
  split at h
  · cases h
  · cases h; rfl
  · split at h
    · cases h
    · rename_i hn; cases h; exact hn

/-- A sound reply with a status stands for an error that can be told. -/
theorem exists_rejection {r : Reply} (hs : r.IsSound) (h0 : r.status ≠ 0) :
    ∃ f, r.rejection = .ok f := by
  unfold IsSound at hs
  unfold rejection content
  simp only [h0, if_false]
  cases hb : r.broken with
  | none => exact ⟨_, rfl⟩
  | some why =>
    cases why with
    | value => exact absurd hb hs
    | system => exact ⟨_, rfl⟩
    | reset => exact ⟨_, rfl⟩
    | chunk => exact ⟨_, rfl⟩

/-- A success that does not break off has its body read. -/
theorem content_of_success {r : Reply} (hs : isSuccess r.status = true) (hw : r.broken = none) :
    r.content = .ok (some r.body) := by
  have hstatus : r.status ≠ 0 := by
    intro h0
    rw [h0] at hs
    cases hs
  simp [content, hstatus, hw]

/-- A reading whose faults never mean that a token was turned down. -/
def IsCalm (reading : Reply → Except Fault α) : Prop :=
  ∀ r fault, reading r = .error fault → Dispatch.isUnauthorized fault = false

theorem content_calm : IsCalm content := by
  intro r fault h
  unfold content at h
  split at h
  · cases h
  · split at h <;> cases h <;> rfl

theorem scalar_calm (codecs : Bytes.Codecs) : IsCalm (scalar codecs) := by
  intro r fault h
  unfold scalar at h
  cases hc : r.content with
  | error e => rw [hc] at h; cases h; exact content_calm r fault hc
  | ok body =>
    rw [hc] at h
    cases body with
    | none => cases h; rfl
    | some bytes =>
      change (r.decodedText codecs bytes).map unquoted = .error fault at h
      unfold decodedText at h
      cases hd : codecs.decode r.charsetName bytes with
      | ok t => rw [hd] at h; cases h
      | error why => rw [hd] at h; cases h; rfl

theorem json_calm : IsCalm json := by
  intro r fault h
  unfold json at h
  cases hc : r.content with
  | error e => rw [hc] at h; cases h; exact content_calm r fault hc
  | ok body =>
    rw [hc] at h
    cases body with
    | none => cases h; rfl
    | some bytes =>
      change (if Bytes.isBlank bytes then Except.ok Json.null else
        (Json.readBytes bytes).mapError fun e =>
          .wrap (notJson r.status) (.ofMishap (bodyMishap e))) = .error fault at h
      split at h
      · cases h
      · cases hj : Json.readBytes bytes with
        | ok v => rw [hj] at h; cases h
        | error e => rw [hj] at h; cases h; rfl

theorem not_isSuccess_unauthorized : isSuccess unauthorizedStatus = false := rfl

/-- A verdict turns a token down exactly on the status for unauthorized. -/
theorem verdict_unauthorized_iff {reading : Reply → Except Fault α} (hc : IsCalm reading)
    {r : Reply} (hs : r.IsSound) :
    (∃ fault, verdict reading r = .error fault ∧ Dispatch.isUnauthorized fault = true) ↔
      r.status = unauthorizedStatus := by
  cases h : isSuccess r.status with
  | true =>
    have hne : r.status ≠ unauthorizedStatus := by
      intro he
      rw [he, not_isSuccess_unauthorized] at h
      cases h
    simp only [verdict, h, if_true, hne, iff_false]
    rintro ⟨fault, hr, hu⟩
    rw [hc r fault hr] at hu
    cases hu
  | false =>
    simp only [verdict, h, Bool.false_eq_true, if_false]
    cases hr : r.rejection with
    | error e =>
      have hne : r.status ≠ unauthorizedStatus := by
        intro he
        obtain ⟨f, hf⟩ := exists_rejection hs (by rw [he]; decide)
        rw [hf] at hr
        cases hr
      simp only [hne, iff_false]
      rintro ⟨fault, he, hu⟩
      cases he
      rw [Dispatch.isUnauthorized, failure?_of_rejection hr] at hu
      cases hu
    | ok f =>
      have hk := kind_of_rejection hr
      constructor
      · rintro ⟨fault, he, hu⟩
        cases he
        by_cases hne : r.status = unauthorizedStatus
        · exact hne
        · rw [rejectionKind, if_neg hne] at hk
          simp [Dispatch.isUnauthorized, Fault.ofFailure, Fault.failure?, hk] at hu
      · intro he
        rw [rejectionKind, if_pos he] at hk
        exact ⟨_, rfl, by simp [Dispatch.isUnauthorized, Fault.ofFailure, Fault.failure?, hk]⟩

end Reply

namespace Exchange

variable {α : Type} (codecs : Bytes.Codecs)

theorem word?_eq (e : Exchange) :
    e.word? codecs =
      (Answer.settle (Reply.verdict (Reply.scalar codecs)) e.answer).toOption := by
  obtain ⟨p, request, answer⟩ := e
  cases answer with
  | none => rfl
  | some answer =>
    cases answer with
    | unreachable why text => rfl
    | crash why text => rfl
    | reply r =>
      cases h : isSuccess r.status with
      | true => simp [word?, reply?, Answer.settle, Reply.verdict, h, Option.filter]
      | false =>
        cases hr : r.rejection <;>
          simp [word?, reply?, Answer.settle, Reply.verdict, h, hr, Option.filter, Except.bind,
            Except.toOption]

/-- A login is won exactly by a word that is not empty. -/
theorem settle_token_iff (e : Exchange) (token : Text) :
    Answer.settle (Reply.token codecs) e.answer = .ok token ↔ e.token? codecs = some token := by
  rw [token?, Option.filter_eq_some_iff, word?_eq, decide_eq_true_iff]
  obtain ⟨p, request, answer⟩ := e
  cases answer with
  | none => simp [Answer.settle, Except.toOption]
  | some answer =>
    cases answer with
    | unreachable why text => simp [Answer.settle, Except.toOption]
    | crash why text => simp [Answer.settle, Except.toOption]
    | reply r =>
      simp only [Answer.settle, Reply.token, Reply.verdict]
      split
      · cases hw : r.scalar codecs with
        | error fault => simp [Except.bind, Except.toOption]
        | ok word =>
          by_cases he : word = []
          · simp only [Except.bind, he, if_true, Except.toOption, Option.some.injEq, reduceCtorEq,
              false_iff, not_and]
            exact fun h hn => hn h.symm
          · simp only [Except.bind, he, if_false, Except.toOption, Option.some.injEq,
              Except.ok.injEq, iff_self_and]
            rintro rfl
            exact he
      · cases hr : r.rejection with
        | error fault => simp [Except.bind, Except.toOption]
        | ok f =>
          simp only [Except.bind, Except.toOption]
          split <;> simp

theorem token?_eq (e : Exchange) :
    e.token? codecs = (Answer.settle (Reply.token codecs) e.answer).toOption := by
  cases h : Answer.settle (Reply.token codecs) e.answer with
  | ok token => exact (settle_token_iff codecs e token).mp h
  | error fault =>
    refine Option.eq_none_iff_forall_ne_some.mpr fun token ht => ?_
    rw [(settle_token_iff codecs e token).mpr ht] at h
    cases h

/-- An attempt turns the token down exactly when the reply has the status for unauthorized. -/
theorem settle_unauthorized_iff {reading : Reply → Except Fault α} (hc : Reply.IsCalm reading)
    (e : Exchange) (hs : ∀ r, e.answer = some (.reply r) → r.IsSound) :
    (∃ fault, Answer.settle (Reply.verdict reading) e.answer = .error fault ∧
      Dispatch.isUnauthorized fault = true) ↔ e.status? = some unauthorizedStatus := by
  obtain ⟨p, request, answer⟩ := e
  cases answer with
  | none =>
    simp only [status?, reply?, Option.map_none, reduceCtorEq, iff_false]
    rintro ⟨fault, h, hu⟩
    cases h
    cases hu
  | some answer =>
    cases answer with
    | unreachable why text =>
      simp only [status?, reply?, Option.map_none, reduceCtorEq, iff_false]
      rintro ⟨fault, h, hu⟩
      cases h
      cases hu
    | crash why text =>
      simp only [status?, reply?, Option.map_none, reduceCtorEq, iff_false]
      rintro ⟨fault, h, hu⟩
      cases h
      cases hu
    | reply r =>
      simpa [status?, reply?, Answer.settle] using Reply.verdict_unauthorized_iff hc (hs r rfl)

end Exchange

end StorageGateway
