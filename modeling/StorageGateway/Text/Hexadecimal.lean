import StorageGateway.Text.Basic

/-! Numbers in hexadecimal at a fixed width, in small letters. -/
namespace StorageGateway

def CodePoint.ofHexValue (d : Nat) : CodePoint := CodePoint.ofChar (Nat.digitChar (d % 16))

namespace Text

/-- The last `width` hexadecimal digits of `n`. -/
def hexadecimal : (width : Nat) → Nat → Text
  | 0, _ => []
  | width + 1, n => hexadecimal width (n / 16) ++ [CodePoint.ofHexValue n]

@[simp] theorem length_hexadecimal (width n : Nat) : (hexadecimal width n).length = width := by
  induction width generalizing n with
  | zero => rfl
  | succ width ih => simp [hexadecimal, ih]

/-- The number that a run of hexadecimal digits writes, if nothing else is in it. -/
def hexValue? (t : Text) : Option Nat :=
  t.foldlM (fun n c => c.hexValue?.map (16 * n + ·)) 0

end Text

end StorageGateway
