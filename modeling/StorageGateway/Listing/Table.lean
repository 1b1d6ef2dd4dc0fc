import StorageGateway.Json.Printer
import StorageGateway.Listing.View

/-! Listings as tables with one row a thing, or as JSON where a table does not fit. -/
namespace StorageGateway.Listing

structure Table where
  title : Text
  columns : List (Text × Alignment)
  rows : List (List Text)
  deriving DecidableEq

/-- Whether `s` does not come after `t`, by code points. -/
def notAfter : Text → Text → Bool
  | [], _ => true
  | _ :: _, [] => false
  | a :: s, b :: t => a < b || (a == b && notAfter s t)

/-- The rows by their sort keys; rows with equal keys keep their order. -/
def ordered (rows : List Row) : List Row :=
  rows.mergeSort fun a b => notAfter (sortKey a) (sortKey b)

def View.cells (view : View) (row : Row) : Except Fault (List Text) :=
  view.columns.mapM fun column => column.render row

def View.table (view : View) (rows : List Row) : Except Fault Table := do
  let cells ← (ordered rows).mapM view.cells
  return ⟨view.title, view.columns.map fun column => (column.header, column.alignment), cells⟩

/-- The objects among the items of a list. -/
def rowsOf (items : List Json) : List Row :=
  items.filterMap fun
    | .obj fields => some fields
    | _ => none

/-- What a listing puts before the user. -/
inductive Display where
  | text (t : Text)
  | table (t : Table)
  deriving DecidableEq

/-- A table of the objects in a list. Without a view or without any object, and where JSON is
wanted, the payload is shown as it is. -/
def present (view : Option View) (wantsJson : Bool) (payload : Json) : Except Fault Display :=
  match view, wantsJson, payload with
  | some view, false, .arr items =>
    match rowsOf items with
    | [] => .ok (.text payload.indented)
    | rows => (view.table rows).map .table
  | _, _, _ => .ok (.text payload.indented)

theorem notAfter_total (s t : Text) : (notAfter s t || notAfter t s) = true := by
  induction s generalizing t with
  | nil => simp [notAfter]
  | cons a s ih =>
    cases t with
    | nil => simp [notAfter]
    | cons b t =>
      rcases Nat.lt_trichotomy a.val b.val with h | h | h
      · have hab : a < b := h
        simp [notAfter, hab]
      · have hab : a = b := Fin.ext h
        subst hab
        simpa [notAfter] using ih t
      · have hba : b < a := h
        simp [notAfter, hba]

theorem notAfter_trans {s t u : Text} (h : notAfter s t = true) (k : notAfter t u = true) :
    notAfter s u = true := by
  induction s generalizing t u with
  | nil => simp [notAfter]
  | cons a s ih =>
    cases t with
    | nil => simp [notAfter] at h
    | cons b t =>
      cases u with
      | nil => simp [notAfter] at k
      | cons c u =>
        simp only [notAfter, Bool.or_eq_true, decide_eq_true_eq, Bool.and_eq_true,
          beq_iff_eq] at h k ⊢
        rcases h with h | ⟨rfl, h⟩
        · rcases k with k | ⟨rfl, _⟩
          · exact .inl (Nat.lt_trans h k)
          · exact .inl h
        · rcases k with k | ⟨rfl, k⟩
          · exact .inl k
          · exact .inr ⟨rfl, ih h k⟩

/-- Sorting loses no row and adds none. -/
theorem ordered_perm (rows : List Row) : (ordered rows).Perm rows := List.mergeSort_perm _ _

end StorageGateway.Listing
