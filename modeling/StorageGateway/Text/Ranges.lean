/-! Sets of code points as ascending bounds: each pair of neighbours opens and closes one range. -/
namespace StorageGateway

/-- Bounds in ascending order; the first of each pair is inside, the second just outside. -/
abbrev Ranges := List Nat

namespace Ranges

def contains : Ranges → Nat → Bool
  | first :: past :: rest, n => if n < first then false else n < past || contains rest n
  | _, _ => false

@[simp] theorem contains_nil (n : Nat) : contains [] n = false := rfl

/-- Past the bounds of the first range only the others count. -/
theorem contains_of_le {first past n : Nat} {rest : Ranges} (h : first ≤ n) (h' : past ≤ n) :
    contains (first :: past :: rest) n = contains rest n := by
  have h₁ : ¬ n < first := by omega
  have h₂ : ¬ n < past := by omega
  simp [contains, h₁, h₂]

theorem contains_of_mem_first {first past n : Nat} {rest : Ranges} (h : first ≤ n)
    (h' : n < past) : contains (first :: past :: rest) n = true := by
  have h₁ : ¬ n < first := by omega
  simp [contains, h₁, h']

end Ranges

end StorageGateway
