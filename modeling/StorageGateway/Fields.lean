import StorageGateway.Text.Basic

/-! Named values in the order in which their names first came. A name occurs once: writing it again
replaces the value and keeps the place. -/
namespace StorageGateway

abbrev Fields (β : Type) := List (Text × β)

namespace Fields

variable {β : Type}

def get? (name : Text) (fields : Fields β) : Option β := fields.lookup name

def put (name : Text) (value : β) : Fields β → Fields β
  | [] => [(name, value)]
  | (n, v) :: fields =>
    if n = name then (n, value) :: fields else (n, v) :: put name value fields

/-- Writes the pairs one after the other. -/
def ofPairs (pairs : List (Text × β)) : Fields β :=
  pairs.foldl (fun fields (name, value) => put name value fields) []

def names (fields : Fields β) : List Text := fields.map (·.1)

@[simp] theorem get?_nil (name : Text) : get? name ([] : Fields β) = none := rfl

theorem get?_cons (name n : Text) (v : β) (fields : Fields β) :
    get? name ((n, v) :: fields) = if name = n then some v else get? name fields := by
  by_cases h : name = n
  · simp [get?, h]
  · have hb : (name == n) = false := by simpa using h
    simp [get?, List.lookup_cons, hb, h]

@[simp] theorem get?_put_self (name : Text) (value : β) (fields : Fields β) :
    get? name (put name value fields) = some value := by
  induction fields with
  | nil => simp [put, get?_cons]
  | cons field fields ih =>
    obtain ⟨n, v⟩ := field
    simp only [put]
    split
    · rename_i h; simp [get?_cons, h]
    · rename_i h
      rw [get?_cons, if_neg (fun e => h e.symm), ih]

theorem get?_put_of_ne {name other : Text} (h : other ≠ name) (value : β) (fields : Fields β) :
    get? other (put name value fields) = get? other fields := by
  induction fields with
  | nil => simp [put, get?_cons, h]
  | cons field fields ih =>
    obtain ⟨n, v⟩ := field
    simp only [put]
    split
    · rename_i hn; subst hn; simp [get?_cons, h]
    · simp [get?_cons, ih]

/-- The names after a write: the old ones, then the new one if it is new. -/
theorem names_put (name : Text) (value : β) (fields : Fields β) :
    names (put name value fields) =
      if name ∈ names fields then names fields else names fields ++ [name] := by
  induction fields with
  | nil => simp [put, names]
  | cons field fields ih =>
    obtain ⟨n, v⟩ := field
    by_cases hn : n = name
    · simp [put, names, hn]
    · have hn' : ¬ name = n := fun e => hn e.symm
      simp only [put, hn, if_false]
      by_cases hm : name ∈ names fields
      · simp only [names, List.map_cons, List.mem_cons, hn', false_or] at ih hm ⊢
        simp [ih, hm]
      · simp only [names, List.map_cons, List.mem_cons, hn', false_or] at ih hm ⊢
        simp [ih, hm]

end Fields

end StorageGateway
