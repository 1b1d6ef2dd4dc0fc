import StorageGateway.Proofs.Json.Readings
import StorageGateway.Proofs.Listing.Cells
import StorageGateway.Proofs.Payloads

/-! What a listing shows: in a table each listed thing once, in the order of the keys, and things with
the same key in the order of the payload; without a table the whole payload. -/
namespace StorageGateway

/-- A stable sort leaves those that are no smaller than each other as they stand. -/
theorem filter_mergeSort {α : Type} {le : α → α → Bool}
    (trans : ∀ a b c, le a b = true → le b c = true → le a c = true)
    (total : ∀ a b, (le a b || le b a) = true) {p : α → Bool}
    (h : ∀ a b, p a = true → p b = true → le a b = true) (l : List α) :
    (l.mergeSort le).filter p = l.filter p := by
  have hsorted : (l.filter p).Pairwise fun a b => le a b = true :=
    List.pairwise_of_forall_mem_list fun a ha b hb =>
      h a b (List.mem_filter.mp ha).2 (List.mem_filter.mp hb).2
  have hkept := (List.sublist_mergeSort trans total hsorted List.filter_sublist).filter p
  rw [List.filter_filter] at hkept
  simp only [Bool.and_self] at hkept
  exact (hkept.eq_of_length (((List.mergeSort_perm l le).filter p).length_eq.symm)).symm

namespace Listing

/-- The order of texts is that of their code points, with a text after its beginnings. -/
def Precedes (s t : Text) : Prop := s = t ∨ List.Lex (· < ·) s t

theorem notAfter_iff (s t : Text) : notAfter s t = true ↔ Precedes s t := by
  unfold Precedes
  induction s generalizing t with
  | nil => cases t <;> simp [notAfter]
  | cons a s ih =>
    cases t with
    | nil => simp [notAfter]
    | cons b t =>
      have hlex : List.Lex (· < ·) (a :: s) (b :: t) ↔ a < b ∨ a = b ∧ List.Lex (· < ·) s t :=
        List.cons_lex_cons_iff
      rw [hlex, List.cons.injEq]
      simp only [notAfter, Bool.or_eq_true, decide_eq_true_eq, Bool.and_eq_true, beq_iff_eq, ih]
      tauto

/-- The key of a row: the small letters of the text of its name, of its identifier if no name counts
as something, and nothing if neither does. -/
inductive HasKey (row : Row) : Text → Prop where
  | name {v : Json} (h : row.get? "name" = some v) (ht : v.isTruthy = true) :
      HasKey row v.display.lower
  | id {v : Json} (hn : ∀ w, row.get? "name" = some w → w.isTruthy = false)
      (h : row.get? "id" = some v) (ht : v.isTruthy = true) : HasKey row v.display.lower
  | none (hn : ∀ w, row.get? "name" = some w → w.isTruthy = false)
      (hi : ∀ w, row.get? "id" = some w → w.isTruthy = false) : HasKey row []

theorem hasKey_iff (row : Row) (key : Text) : HasKey row key ↔ sortKey row = key := by
  have htruthy {name : Text} {v : Json} : (row.get? name).filter Json.isTruthy = some v ↔
      row.get? name = some v ∧ v.isTruthy = true := Option.filter_eq_some_iff
  have hfalsy {name : Text} : (row.get? name).filter Json.isTruthy = none ↔
      ∀ w, row.get? name = some w → w.isTruthy = false := by
    simp [Option.filter_eq_none_iff]
  constructor
  · intro h
    cases h with
    | name h ht => simp [sortKey, firstTruthy, htruthy.mpr ⟨h, ht⟩]
    | id hn h ht => simp [sortKey, firstTruthy, hfalsy.mpr hn, htruthy.mpr ⟨h, ht⟩]
    | none hn hi => simp [sortKey, firstTruthy, hfalsy.mpr hn, hfalsy.mpr hi]
  · rintro rfl
    cases hn : (row.get? "name").filter Json.isTruthy with
    | some v =>
      obtain ⟨hv, ht⟩ := htruthy.mp hn
      simpa [sortKey, firstTruthy, hn] using HasKey.name hv ht
    | none =>
      cases hi : (row.get? "id").filter Json.isTruthy with
      | some v =>
        obtain ⟨hv, ht⟩ := htruthy.mp hi
        simpa [sortKey, firstTruthy, hn, hi] using HasKey.id (hfalsy.mp hn) hv ht
      | none =>
        have hkey := HasKey.none (hfalsy.mp hn) (hfalsy.mp hi)
        simpa [sortKey, firstTruthy, hn, hi] using hkey

instance (row : Row) (key : Text) : Decidable (HasKey row key) :=
  decidable_of_iff _ (hasKey_iff row key).symm

/-- A table that shows each of some things once, in the order of their keys; those with the same key
stand in the order in which they came. -/
structure Table.Shows (t : Table) (view : View) (things : List Row) : Prop where
  title : t.title = view.title
  columns : t.columns = view.columns.map fun column => (column.header, column.alignment)
  rows : ∃ rows : List Row, rows.Perm things ∧
    List.Forall₂ (fun row cells =>
      List.Forall₂ (fun column cell => column.render row = .ok cell) view.columns cells)
      rows t.rows ∧
    rows.Pairwise (fun a b => ∃ j k, HasKey a j ∧ HasKey b k ∧ Precedes j k) ∧
    ∀ key, rows.filter (HasKey · key) = things.filter (HasKey · key)

section Ordering

variable (rows : List Row)

theorem keys_trans (a b c : Row) (hab : notAfter (sortKey a) (sortKey b) = true)
    (hbc : notAfter (sortKey b) (sortKey c) = true) : notAfter (sortKey a) (sortKey c) = true :=
  notAfter_trans hab hbc

theorem keys_total (a b : Row) :
    (notAfter (sortKey a) (sortKey b) || notAfter (sortKey b) (sortKey a)) = true :=
  notAfter_total _ _

theorem ordered_pairwise :
    (ordered rows).Pairwise fun a b => ∃ j k, HasKey a j ∧ HasKey b k ∧ Precedes j k := by
  refine (List.pairwise_mergeSort keys_trans keys_total rows).imp fun {a b} hab => ?_
  exact ⟨sortKey a, sortKey b, (hasKey_iff a _).mpr rfl, (hasKey_iff b _).mpr rfl,
    (notAfter_iff _ _).mp hab⟩

theorem ordered_filter (key : Text) :
    (ordered rows).filter (HasKey · key) = rows.filter (HasKey · key) := by
  refine filter_mergeSort keys_trans keys_total (fun a b ha hb => ?_) rows
  have ha := (hasKey_iff a key).mp (of_decide_eq_true ha)
  have hb := (hasKey_iff b key).mp (of_decide_eq_true hb)
  rw [ha, hb, notAfter_iff]
  exact .inl rfl

end Ordering

theorem View.table_shows {view : View} {things : List Row} {t : Table}
    (h : view.table things = .ok t) : t.Shows view things := by
  unfold View.table at h
  cases hcells : (ordered things).mapM view.cells with
  | error fault => rw [hcells] at h; cases h
  | ok cells =>
    rw [hcells] at h
    cases h
    refine ⟨rfl, rfl, ordered things, ordered_perm things, ?_, ordered_pairwise things,
      ordered_filter things⟩
    exact (mapM_eq_ok_iff.mp hcells).imp fun row cells hrow => mapM_eq_ok_iff.mp hrow

/-- The things of a payload are its objects, in their order. -/
theorem filter_isObject (items : List Json) :
    items.filter Json.isObject = (rowsOf items).map .obj := by
  induction items with
  | nil => rfl
  | cons item items ih =>
    cases item with
    | obj fields => exact congrArg (Json.obj fields :: ·) ih
    | _ => exact ih

theorem rowsOf_eq {items : List Json} {things : List Row}
    (h : items.filter Json.isObject = things.map .obj) : rowsOf items = things := by
  rw [filter_isObject] at h
  exact List.map_injective_iff.mpr (fun _ _ => Json.obj.inj) h

/-- If each cell has a text, the things are drawn. -/
theorem present_eq_table {view : View} {items : List Json} {things : List Row}
    (h : rowsOf items = things) (hne : things ≠ [])
    (hc : ∀ row ∈ things, ∀ c ∈ view.columns, ∃ cell, c.render row = .ok cell) :
    ∃ t, present (some view) false (.arr items) = .ok (.table t) ∧ t.Shows view things := by
  cases ht : view.table things with
  | error fault =>
    obtain ⟨-, row, hrow, c, hcol, ho⟩ := (view.table_eq_error_iff things fault).mp ht
    obtain ⟨cell, hcell⟩ := hc row hrow c hcol
    rw [Column.render_of_overflows ho] at hcell
    cases hcell
  | ok t =>
    refine ⟨t, ?_, View.table_shows ht⟩
    obtain ⟨row, rows, rfl⟩ := List.exists_cons_of_ne_nil hne
    simp only [present, h, ht]
    rfl

theorem present_eq_text {view : View} {wantsJson : Bool} {payload : Json}
    (h : wantsJson = true ∨
      ∀ items, payload = .arr items → ∀ item ∈ items, item.isObject = false) :
    present (some view) wantsJson payload = .ok (.text payload.indented) := by
  cases wantsJson with
  | true => rfl
  | false =>
    have h := h.resolve_left Bool.false_ne_true
    cases payload with
    | arr items =>
      have hrows : rowsOf items = [] := by
        refine rowsOf_eq (List.filter_eq_nil_iff.mpr fun item hitem => ?_)
        simp [h items rfl item hitem]
      simp only [present, hrows]
    | _ => rfl

/-- A list with things in it is drawn as one table that shows each of them, and nothing is printed.
Any other payload is printed in whole and nothing is drawn, and so is every payload where JSON is
wanted; what is printed is read as the payload, if that was read of a text without halves. -/
theorem present_shows_all (view : View) (wantsJson : Bool) (payload : Json) :
    (∀ items things, payload = .arr items → items.filter Json.isObject = things.map .obj →
      things ≠ [] → wantsJson = false →
      (∀ row ∈ things, ∀ c ∈ view.columns, ∃ cell, c.render row = .ok cell) →
      ∃ t, CommandLine.shown (present (some view) wantsJson payload) = (.finished, [.drawn t]) ∧
        t.Shows view things) ∧
    ((wantsJson = true ∨
        ∀ items, payload = .arr items → ∀ item ∈ items, item.isObject = false) →
      ∃ t, CommandLine.shown (present (some view) wantsJson payload) =
          (.finished, [.printed (t ++ [CodePoint.newline])]) ∧
        Json.Writes (.value payload) t ∧
        (Json.Readable payload → Json.read (t ++ [CodePoint.newline]) = .ok payload)) ∧
    ∀ source, Json.IsScalar source → Json.read source = .ok payload → Json.Readable payload := by
  refine ⟨fun items things hp hthings hne hw hc => ?_, fun h => ?_,
    fun source hs hread => Json.readable_of_read hs hread⟩
  · subst hp hw
    obtain ⟨t, hpresent, hshows⟩ := present_eq_table (rowsOf_eq hthings) hne hc
    exact ⟨t, by rw [hpresent]; rfl, hshows⟩
  · have hwrites := Json.writes_layOut payload 0
    refine ⟨payload.indented, ?_, hwrites, fun hr => ?_⟩
    · rw [present_eq_text h, CommandLine.shown, CommandLine.line_indented]
    · have hgap : Json.IsGap [CodePoint.newline] := Json.isGap_newLine 0
      exact hwrites.read hr Json.isGap_nil hgap

/-- Two things whose names differ in the size of a letter keep their places, and a number between
them has no row. -/
theorem present_shows_all_of_equal_keys :
    let first : Row := [("name", .str "Pool"), ("id", .str "1")]
    let second : Row := [("name", .str "pool"), ("id", .str "2")]
    let payload : Json := .arr [.obj first, .int 7, .obj second]
    let shownRows : List (List Text) := [["Pool", "1", "", ""], ["pool", "2", "", ""]]
    HasKey first "pool" ∧ HasKey second "pool" ∧
    ∃ t, CommandLine.shown (present (some .systems) false payload) = (.finished, [.drawn t]) ∧
      t.Shows .systems [first, second] ∧ t.rows = shownRows := by
  intro first second payload shownRows
  have hfirst : HasKey first "pool" := by decide
  have hsecond : HasKey second "pool" := by decide
  have hrender : ∀ row ∈ [first, second], ∀ c ∈ View.systems.columns,
      ∃ cell, c.render row = .ok cell :=
    fun row _ c hc => Column.render_of_not_overflows fun ho => by
      have hsize := ho.1
      simp [View.systems] at hc
      rcases hc with rfl | rfl | rfl | rfl <;> cases hsize
  obtain ⟨t, hshown, hshows⟩ := (present_shows_all .systems false payload).1
    [.obj first, .int 7, .obj second] [first, second] rfl rfl (List.cons_ne_nil _ _) rfl hrender
  refine ⟨hfirst, hsecond, t, hshown, hshows, ?_⟩
  obtain ⟨rows, hperm, hcells, -, hkept⟩ := hshows.rows
  -- both have the one key, so that the order of the payload is all there is
  have hkey : ∀ row ∈ [first, second], decide (HasKey row "pool") = true := by
    simp [hfirst, hsecond]
  have hrows : rows = [first, second] := by
    have hfilter := hkept "pool"
    rw [List.filter_eq_self.mpr hkey,
      List.filter_eq_self.mpr fun row hrow => hkey row (hperm.mem_iff.mp hrow)] at hfilter
    exact hfilter
  rw [hrows] at hcells
  have hread : [first, second].mapM View.systems.cells = .ok t.rows :=
    mapM_eq_ok_iff.mpr (hcells.imp fun _ _ hrow => mapM_eq_ok_iff.mpr hrow)
  exact Except.ok.inj (hread.symm.trans rfl)

end Listing

end StorageGateway
