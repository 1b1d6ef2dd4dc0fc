import StorageGateway.Proofs.Bodies
import StorageGateway.Proofs.Replies

/-! What a gateway's error comes to. Whatever stands in the body, the error can be told: its kind
follows the status alone, its words come from the body when that explains itself and from the reason
otherwise, and they are never empty. -/
namespace StorageGateway

namespace Decimal

theorem Style.write_ne_nil (style : Style) (digits : Nat) (scale : Int) :
    style.write digits scale ≠ [] := by
  unfold Style.write
  dsimp only
  split
  · split
    · simp [Text.ofString]
    split
    · simp [Text.ofString]
    · simp [Text.ofString]
  · simp [Text.ofString]

theorem integer_ne_nil (i : Int) : integer i ≠ [] := by
  simp [integer, natural_ne_nil]

end Decimal

namespace Json

theorem numberText_ne_nil (x : Binary64) : numberText plainWords x ≠ [] := by
  cases x with
  | nan => decide
  | infinite negative => cases negative <;> decide
  | finite negative significand exponent =>
    simp [numberText, Binary64.finiteText, Decimal.Style.write_ne_nil]

theorem inspect_ne_nil (v : Json) : inspect v ≠ [] := by
  cases v with
  | null => decide
  | bool b => cases b <;> decide
  | int i => simpa [inspect] using Decimal.integer_ne_nil i
  | float x => simpa [inspect] using numberText_ne_nil x
  | str t => simp [inspect, Text.quoted]
  | arr items => simp [inspect]
  | obj fields => simp [inspect]

theorem display_ne_nil {v : Json} (h : v.isTruthy = true) : display v ≠ [] := by
  cases v with
  | str t => rintro rfl; cases h
  | null => exact inspect_ne_nil _
  | bool b => exact inspect_ne_nil _
  | int i => exact inspect_ne_nil _
  | float x => exact inspect_ne_nil _
  | arr items => exact inspect_ne_nil _
  | obj fields => exact inspect_ne_nil _

end Json

namespace Failure

theorem firstDetail?_ne_nil {details : Json} {t : Text} (h : firstDetail? details = some t) :
    t ≠ [] := by
  unfold firstDetail? at h
  split at h
  · split at h
    · split at h
      · rename_i htruthy
        cases h
        exact Json.display_ne_nil htruthy
      · cases h
    · cases h
  · cases h

/-- The detail that stands in for a placeholder is not empty either. -/
theorem text_ne_nil {f : Failure} (h : f.message ≠ []) : f.text ≠ [] := by
  unfold text
  split
  · cases hd : firstDetail? f.details with
    | none => exact h
    | some t => exact firstDetail?_ne_nil hd
  · exact h

end Failure

namespace Reply

/-- The bytes of the body that can be used: none when the connection breaks. -/
def arrived (r : Reply) : Bytes := if r.broken = none then r.body else []

/-- A body explains itself as an object with a message that is a text and not empty. -/
def Explains (r : Reply) (fields : Fields Json) (message : Text) : Prop :=
  Json.readBytes r.arrived = .ok (.obj fields) ∧
    Fields.get? "message" fields = some (.str message) ∧ message ≠ []

/-- What the error of a reply without success tells about the reply. -/
structure IsToldBy (r : Reply) (f : Failure) : Prop where
  unauthorized : f.kind = .unauthorized ↔ r.status = 401
  rejected : f.kind = .rejected ↔ r.status ≠ 401
  status : f.status = some r.status
  worded : f.text ≠ []
  explained : ∀ fields message, r.Explains fields message →
    f.message = message ∧
      (∀ code, f.errorCode = some code ↔ Fields.get? "errorCode" fields = some code.toJson) ∧
      f.details = (Fields.get? "details" fields).getD .null
  unexplained : (¬ ∃ fields message, r.Explains fields message) →
    f.message = (if (r.reason.getD []).trim = [] then Text.ofString "unparseable error response"
      else (r.reason.getD []).trim) ∧
    f.errorCode = none ∧
    f.details = if r.arrived = [] then .null
      else .str ((Bytes.Utf8.decodeLossy r.arrived).take 200)

theorem rejection_eq_arrived {r : Reply} (hs : r.IsSound) (h0 : r.status ≠ 0) :
    r.rejection = .ok (r.rejectionFrom r.arrived) := by
  unfold IsSound at hs
  unfold rejection content arrived
  simp only [h0, if_false]
  cases hb : r.broken with
  | none => rfl
  | some why =>
    cases why with
    | value => exact absurd hb hs
    | system => rfl
    | reset => rfl
    | chunk => rfl

/-- Reading a blank body would fail, so that leaving it out loses nothing. -/
theorem jsonOrNull_eq (body : Bytes) :
    jsonOrNull body = (Json.readBytes body).toOption.getD .null := by
  unfold jsonOrNull
  cases h : Json.readBytes body with
  | ok v => simp [Json.isBlank_of_readBytes h, Except.toOption]
  | error e => simp [Except.toOption]

theorem jsonOrNull_eq_obj {body : Bytes} {fields : Fields Json} :
    jsonOrNull body = .obj fields ↔ Json.readBytes body = .ok (.obj fields) := by
  rw [jsonOrNull_eq]
  cases Json.readBytes body <;> simp [Except.toOption]

theorem explanation?_eq_some {payload : Json} {message : Text} :
    explanation? payload = some message ↔
      ∃ fields, payload = .obj fields ∧ Fields.get? "message" fields = some (.str message) ∧
        message ≠ [] := by
  cases payload with
  | obj fields =>
    simp only [explanation?, Json.field?, Json.obj.injEq, exists_eq_left',
      Option.filter_eq_some_iff, Option.bind_eq_some_iff, decide_eq_true_eq]
    constructor
    · rintro ⟨⟨v, hv, ht⟩, hne⟩
      cases v with
      | str t => cases ht; exact ⟨hv, hne⟩
      | _ => cases ht
    · rintro ⟨hv, hne⟩
      exact ⟨⟨_, hv, rfl⟩, hne⟩
  | _ => simp [explanation?, Json.field?]

/-- The two cases of an error: the body explains itself, or the reason has to do. -/
theorem explanation?_arrived (r : Reply) (message : Text) :
    explanation? (jsonOrNull r.arrived) = some message ↔ ∃ fields, r.Explains fields message := by
  simp only [explanation?_eq_some, jsonOrNull_eq_obj, Explains]

theorem ofJson?_iff (v : Option Json) (code : ErrorCode) :
    v.bind ErrorCode.ofJson? = some code ↔ v = some code.toJson := by
  cases v with
  | none => simp
  | some v => cases v <;> cases code <;> simp [ErrorCode.ofJson?, ErrorCode.toJson]

theorem rejectionFrom_message_ne_nil (r : Reply) (body : Bytes) :
    (r.rejectionFrom body).message ≠ [] := by
  unfold rejectionFrom
  dsimp only
  split
  · rename_i message hm
    obtain ⟨_, _, _, hne⟩ := explanation?_eq_some.mp hm
    exact hne
  · split
    · exact (by decide : unexplained ≠ [])
    · rename_i hne
      exact hne

theorem rejectionFrom_explained {r : Reply} {fields : Fields Json} {message : Text}
    (h : r.Explains fields message) :
    r.rejectionFrom r.arrived =
      { kind := rejectionKind r.status
        message
        status := some r.status
        errorCode := (Fields.get? "errorCode" fields).bind ErrorCode.ofJson?
        details := (Fields.get? "details" fields).getD .null } := by
  have hm := (explanation?_arrived r message).mpr ⟨fields, h⟩
  have hp := jsonOrNull_eq_obj.mpr h.1
  unfold rejectionFrom
  simp only [hm]
  rw [hp]
  rfl

theorem rejectionFrom_unexplained {r : Reply}
    (h : ¬ ∃ fields message, r.Explains fields message) :
    r.rejectionFrom r.arrived =
      { kind := rejectionKind r.status
        message := if (r.reason.getD []).trim = [] then unexplained else (r.reason.getD []).trim
        status := some r.status
        details := if r.arrived = [] then .null
          else .str ((Bytes.Utf8.decodeLossy r.arrived).take keptDetails) } := by
  have hm : explanation? (jsonOrNull r.arrived) = none := by
    refine Option.eq_none_iff_forall_ne_some.mpr fun message hm => h ?_
    obtain ⟨fields, hf⟩ := (explanation?_arrived r message).mp hm
    exact ⟨fields, message, hf⟩
  have hkept : (Bytes.Utf8.decodeLossy r.arrived).take keptDetails = [] ↔ r.arrived = [] := by
    rw [List.take_eq_nil_iff]
    constructor
    · intro hnil
      rcases hnil with hnil | hnil
      · cases hnil
      · by_cases hb : r.arrived = []
        · exact hb
        · exact absurd hnil (Bytes.Utf8.decodeLossy_ne_nil hb)
    · intro hnil
      rw [hnil]
      exact .inr rfl
  unfold rejectionFrom
  simp only [hm, hkept]

/-- An error can always be told, and tells what came. -/
theorem rejection_isToldBy (r : Reply) (hs : r.IsSound) (h0 : r.status ≠ 0) :
    ∃ f, r.rejection = .ok f ∧ r.IsToldBy f := by
  refine ⟨_, rejection_eq_arrived hs h0, ?_⟩
  have hkind := r.rejectionFrom_kind r.arrived
  refine
    { unauthorized := ?_
      rejected := ?_
      status := r.rejectionFrom_status r.arrived
      worded := Failure.text_ne_nil (r.rejectionFrom_message_ne_nil r.arrived)
      explained := ?_
      unexplained := ?_ }
  · rw [hkind, rejectionKind]
    split <;> simp_all [unauthorizedStatus]
  · rw [hkind, rejectionKind]
    split <;> simp_all [unauthorizedStatus]
  · intro fields message h
    rw [rejectionFrom_explained h]
    exact ⟨rfl, fun code => ofJson?_iff _ code, rfl⟩
  · intro h
    rw [rejectionFrom_unexplained h]
    exact ⟨rfl, rfl, rfl⟩

/-- A session that has run out, told in the gateway's words. -/
def expired : Reply where
  status := 401
  body := Bytes.ofAscii ("\x7b\"message\": \"expired\", \"errorCode\": 7\x7d" : String)

theorem expired_isToldBy :
    expired.IsSound ∧ expired.status ≠ 0 ∧ ∃ f, expired.rejection = .ok f ∧ expired.IsToldBy f := by
  have hs : expired.IsSound := fun h => by cases h
  exact ⟨hs, by decide, rejection_isToldBy expired hs (by decide)⟩

end Reply

end StorageGateway
