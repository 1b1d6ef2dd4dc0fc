import Mathlib.Data.List.Forall2
import StorageGateway.Listing.Table
import StorageGateway.Proofs.Binary64.Range

/-! What is drawn in the cells of a table, and the one thing that cannot be: a size whose integer has
no number in the binary format. Every other value of any field has a text. -/
namespace StorageGateway

section Items

variable {α β ε : Type} {f : α → Except ε β} {l : List α}

theorem mapM_cons_of_error {a : α} {e : ε} (h : f a = .error e) : (a :: l).mapM f = .error e := by
  simp [h, bind, Except.bind]

theorem mapM_cons_of_ok {a : α} {b : β} (h : f a = .ok b) :
    (a :: l).mapM f = (l.mapM f).map (b :: ·) := by
  cases hl : l.mapM f <;> simp [h, hl, bind, Except.bind, pure, Except.pure, Except.map]

/-- The results of a list stand in the order of its items, one for each. -/
theorem mapM_eq_ok_iff {results : List β} :
    l.mapM f = .ok results ↔ List.Forall₂ (fun a b => f a = .ok b) l results := by
  induction l generalizing results with
  | nil => cases results <;> simp [pure, Except.pure]
  | cons a l ih =>
    cases h : f a with
    | error e => cases results <;> simp [mapM_cons_of_error h, h]
    | ok b =>
      rw [mapM_cons_of_ok h]
      cases hl : l.mapM f <;> cases results <;> simp [Except.map, ← ih, hl, h]

/-- If each item fails in one way only, so does the list. -/
theorem mapM_eq_error_iff {fault : ε} {p : α → Prop}
    (hf : ∀ a e, f a = .error e ↔ e = fault ∧ p a) (e : ε) :
    l.mapM f = .error e ↔ e = fault ∧ ∃ a ∈ l, p a := by
  induction l with
  | nil => simp [pure, Except.pure]
  | cons a l ih =>
    cases h : f a with
    | error first =>
      obtain ⟨rfl, ha⟩ := (hf a first).mp h
      simp [mapM_cons_of_error h, ha, eq_comm]
    | ok b =>
      have ha : ¬ p a := fun ha => by
        rw [(hf a fault).mpr ⟨rfl, ha⟩] at h
        cases h
      rw [mapM_cons_of_ok h, List.exists_mem_cons_iff, or_iff_right ha, ← ih]
      cases l.mapM f <;> simp [Except.map]

end Items

namespace Listing

namespace Size

/-- The values that stand for a number. -/
def IsNumber : Json → Prop
  | .bool _ | .int _ | .float _ => True
  | .str t => (Binary64.read? t).isSome
  | _ => False

/-- An integer beyond all numbers of the binary format. -/
def IsTooLarge (v : Json) : Prop := ∃ i, v = .int i ∧ Binary64.integerBound ≤ i.natAbs

theorem gibText_ne_nil (kib : Binary64) : gibText kib ≠ [] := by
  have hpoint : Text.ofString "." ≠ [] := by decide
  unfold gibText Binary64.fixedText
  split
  · decide
  · split <;> decide
  · simp [Binary64.placedText, hpoint]

theorem text_of_tooLarge {v : Json} (h : IsTooLarge v) :
    text v = .error (.ofMishap .numberTooLarge) := by
  obtain ⟨i, rfl, hi⟩ := h
  simp [text, number?, (Binary64.ofInt?_eq_none_iff i).mpr hi, bind, Except.bind]

theorem text_of_number {v : Json} (h : IsNumber v) (hl : ¬ IsTooLarge v) :
    ∃ kib, text v = .ok (gibText kib) := by
  have hnumber : ∃ kib, number? v = .ok (some kib) := by
    cases v with
    | bool b => exact ⟨_, rfl⟩
    | int i =>
      cases hi : Binary64.ofInt? i with
      | none => exact absurd ⟨i, rfl, (Binary64.ofInt?_eq_none_iff i).mp hi⟩ hl
      | some kib => exact ⟨kib, by simp [number?, hi]⟩
    | float x => exact ⟨x, rfl⟩
    | str t =>
      obtain ⟨kib, hkib⟩ := Option.isSome_iff_exists.mp h
      exact ⟨kib, congrArg Except.ok hkib⟩
    | _ => exact absurd h id
  obtain ⟨kib, hkib⟩ := hnumber
  exact ⟨kib, by simp [text, hkib, bind, Except.bind, pure, Except.pure]⟩

/-- What stands for no number is shown as nothing. -/
theorem text_of_no_number {v : Json} (h : ¬ IsNumber v) : text v = .ok [] := by
  have hnumber : number? v = .ok none := by
    cases v with
    | bool b => exact absurd trivial h
    | int i => exact absurd trivial h
    | float x => exact absurd trivial h
    | str t => exact congrArg Except.ok (Option.not_isSome_iff_eq_none.mp h)
    | _ => rfl
  simp [text, hnumber, bind, Except.bind, pure, Except.pure]

end Size

/-- A row whose size in a column of sizes is beyond all numbers of the binary format. -/
def Column.Overflows (c : Column) (row : Row) : Prop :=
  c.format = .size ∧ ∃ v, row.get? c.field = some v ∧ Size.IsTooLarge v

namespace Column

variable {c : Column} {row : Row}

theorem render_of_overflows (h : c.Overflows row) :
    c.render row = .error (.ofMishap .numberTooLarge) := by
  obtain ⟨hf, v, hv, hl⟩ := h
  have htext := Size.text_of_tooLarge hl
  obtain ⟨i, rfl, -⟩ := hl
  simp only [render, hv, hf, Format.text, htext]

theorem render_of_not_overflows (h : ¬ c.Overflows row) : ∃ t, c.render row = .ok t := by
  unfold render
  split
  · exact ⟨[], rfl⟩
  · exact ⟨[], rfl⟩
  · rename_i v _ hv
    cases hf : c.format with
    | plain => exact ⟨v.display, rfl⟩
    | size =>
      by_cases hn : Size.IsNumber v
      · obtain ⟨kib, hkib⟩ := Size.text_of_number hn fun hl => h ⟨hf, v, hv, hl⟩
        exact ⟨_, hkib⟩
      · exact ⟨[], Size.text_of_no_number hn⟩

theorem render_eq_error_iff (fault : Fault) :
    c.render row = .error fault ↔ fault = .ofMishap .numberTooLarge ∧ c.Overflows row := by
  by_cases h : c.Overflows row
  · simp [render_of_overflows h, h, eq_comm]
  · obtain ⟨t, ht⟩ := render_of_not_overflows h
    simp [ht, h]

/-- A cell for a size is empty exactly when no number is there. -/
theorem render_eq_nil_iff (h : c.format = .size) :
    c.render row = .ok [] ↔ ∀ v, row.get? c.field = some v → ¬ Size.IsNumber v := by
  constructor
  · intro hr v hv hn
    have ho : ¬ c.Overflows row := fun ho => by
      rw [render_of_overflows ho] at hr
      cases hr
    obtain ⟨kib, hkib⟩ := Size.text_of_number hn fun hl => ho ⟨h, v, hv, hl⟩
    have hrender : c.render row = Size.text v := by
      cases v with
      | null => exact absurd hn id
      | _ => simp [render, hv, h, Format.text]
    rw [hrender, hkib] at hr
    exact Size.gibText_ne_nil kib (Except.ok.inj hr)
  · intro hn
    unfold render
    split
    · rfl
    · rfl
    · rename_i v _ hv
      rw [h]
      exact Size.text_of_no_number (hn v hv)

end Column

/-- A table fails exactly when a cell does, and there is one fault only. -/
theorem View.table_eq_error_iff (view : View) (rows : List Row) (fault : Fault) :
    view.table rows = .error fault ↔
      fault = .ofMishap .numberTooLarge ∧ ∃ row ∈ rows, ∃ c ∈ view.columns, c.Overflows row := by
  have hcells (row : Row) (fault : Fault) : view.cells row = .error fault ↔
      fault = .ofMishap .numberTooLarge ∧ ∃ c ∈ view.columns, c.Overflows row :=
    mapM_eq_error_iff (fun c fault => c.render_eq_error_iff fault) fault
  have hrows := mapM_eq_error_iff (l := ordered rows) hcells fault
  simp only [(ordered_perm rows).mem_iff] at hrows
  rw [← hrows, View.table]
  cases (ordered rows).mapM view.cells <;> simp [bind, Except.bind, pure, Except.pure]

theorem present_eq_error_iff (view : View) (payload : Json) (fault : Fault) :
    present (some view) false payload = .error fault ↔ fault = .ofMishap .numberTooLarge ∧
      ∃ items, payload = .arr items ∧
        ∃ row ∈ rowsOf items, ∃ c ∈ view.columns, c.Overflows row := by
  cases payload with
  | arr items =>
    have htable := view.table_eq_error_iff (rowsOf items) fault
    simp only [present, Json.arr.injEq, exists_eq_left']
    cases hrows : rowsOf items with
    | nil => simp
    | cons row rows =>
      rw [hrows] at htable
      rw [← htable]
      cases h : view.table (row :: rows) <;> simp [h, Except.map]
  | _ => simp [present]

/-- No listing of systems fails, and one of volumes fails exactly for a size that is an integer beyond
all numbers of the binary format. Every other cell has a text, which for a size is empty where no
number stands, and the keys of any two rows can be compared. -/
theorem breaks_iff (payload : Json) :
    (∃ shown, present (some .systems) false payload = .ok shown) ∧
      (∀ fault, present (some .volumes) false payload = .error fault ↔
        fault = .ofMishap .numberTooLarge ∧ ∃ items, payload = .arr items ∧
          ∃ row ∈ rowsOf items, ∃ i, row.get? "sizeInKb" = some (.int i) ∧
            Binary64.integerBound ≤ i.natAbs) ∧
      (∀ c ∈ View.systems.columns ++ View.volumes.columns, ∀ row,
        (∃ t, c.render row = .ok t) ∨ c.field = "sizeInKb" ∧
          ∃ i, row.get? "sizeInKb" = some (.int i) ∧ Binary64.integerBound ≤ i.natAbs) ∧
      (∀ c ∈ View.volumes.columns, c.field = "sizeInKb" → ∀ row, c.render row = .ok [] ↔
        ∀ v, row.get? "sizeInKb" = some v → ¬ Size.IsNumber v) ∧
      ∀ a b, (notAfter (sortKey a) (sortKey b) || notAfter (sortKey b) (sortKey a)) = true := by
  have hcolumns : ∀ c ∈ View.systems.columns ++ View.volumes.columns,
      (c.format = .size ↔ c.field = "sizeInKb") := by
    simp [View.systems, View.volumes]
    decide
  have hsystems (row : Row) : ¬ ∃ c ∈ View.systems.columns, c.Overflows row := by
    simp [View.systems, Column.Overflows]
  have hvolumes (row : Row) : (∃ c ∈ View.volumes.columns, c.Overflows row) ↔
      ∃ i, row.get? "sizeInKb" = some (.int i) ∧ Binary64.integerBound ≤ i.natAbs := by
    simp [View.volumes, Column.Overflows, Size.IsTooLarge]
  refine ⟨?_, fun fault => ?_, fun c hc row => ?_, fun c hc hf row => ?_, fun a b => ?_⟩
  · cases h : present (some .systems) false payload with
    | ok shown => exact ⟨shown, rfl⟩
    | error fault =>
      obtain ⟨-, _, -, row, -, ho⟩ := (present_eq_error_iff _ _ _).mp h
      exact absurd ho (hsystems row)
  · simp only [present_eq_error_iff, hvolumes]
  · by_cases ho : c.Overflows row
    · obtain ⟨hf, v, hv, i, rfl, hi⟩ := ho
      have hfield := (hcolumns c hc).mp hf
      exact .inr ⟨hfield, i, hfield ▸ hv, hi⟩
    · exact .inl (Column.render_of_not_overflows ho)
  · have hformat := (hcolumns c (List.mem_append_right _ hc)).mpr hf
    rw [Column.render_eq_nil_iff hformat, hf]
  · exact notAfter_total _ _

/-- A size of `10 ^ 400` KiB, a number that can be read. -/
theorem breaks_for_large_volume :
    present (some .volumes) false
        (.arr [.obj [("sizeInKb", .int (Nat.pow 10 400))]]) =
      .error (.ofMishap .numberTooLarge) := by
  have hbound : Binary64.integerBound ≤ Nat.pow 10 400 := by decide +kernel
  generalize Nat.pow 10 400 = size at hbound ⊢
  rw [present_eq_error_iff]
  refine ⟨rfl, _, rfl, _, List.mem_singleton_self _,
    { header := "Size (GiB)", field := "sizeInKb", format := .size, alignment := .right },
    by simp [View.volumes], rfl, _, rfl, _, rfl, hbound⟩

end Listing

end StorageGateway
