import StorageGateway.Text.Basic

/-! The decimal digits of every script: each run of ten starts at its zero. -/
namespace StorageGateway

/-- The digit zero of each script that has decimal digits. -/
def decimalZeros : List Nat := [
  0x30, 0x660, 0x6F0, 0x7C0, 0x966, 0x9E6, 0xA66, 0xAE6, 0xB66, 0xBE6, 0xC66, 0xCE6, 0xD66, 0xDE6,
  0xE50, 0xED0, 0xF20, 0x1040, 0x1090, 0x17E0, 0x1810, 0x1946, 0x19D0, 0x1A80, 0x1A90, 0x1B50,
  0x1BB0, 0x1C40, 0x1C50, 0xA620, 0xA8D0, 0xA900, 0xA9D0, 0xA9F0, 0xAA50, 0xABF0, 0xFF10, 0x104A0,
  0x10D30, 0x11066, 0x110F0, 0x11136, 0x111D0, 0x112F0, 0x11450, 0x114D0, 0x11650, 0x116C0,
  0x11730, 0x118E0, 0x11950, 0x11C50, 0x11D50, 0x11DA0, 0x16A60, 0x16AC0, 0x16B50, 0x1D7CE,
  0x1D7D8, 0x1D7E2, 0x1D7EC, 0x1D7F6, 0x1E140, 0x1E2F0, 0x1E950, 0x1FBF0]

namespace CodePoint

def digitValue? (c : CodePoint) : Option Nat :=
  if c.isAscii then
    if c.isAsciiDigit then some (c.val - 0x30) else none
  else (decimalZeros.find? fun z => z ≤ c.val && c.val < z + 10).map (c.val - ·)

def isDigit (c : CodePoint) : Bool := c.digitValue?.isSome

theorem digitValue?_lt {c : CodePoint} {d : Nat} (h : c.digitValue? = some d) : d < 10 := by
  unfold digitValue? at h
  split at h
  · split at h
    · rename_i hd
      simp [isAsciiDigit] at hd
      simp at h
      omega
    · simp at h
  · obtain ⟨z, hz, rfl⟩ := Option.map_eq_some_iff.1 h
    have := List.find?_some hz
    simp at this
    omega

end CodePoint

namespace Text

/-- The number that a run of digits writes; anything that is no digit counts as zero. -/
def digitsValue (t : Text) : Nat :=
  t.foldl (fun n c => 10 * n + c.digitValue?.getD 0) 0

@[simp] theorem digitsValue_nil : digitsValue [] = 0 := rfl

theorem digitsValue_concat (t : Text) (c : CodePoint) :
    digitsValue (t ++ [c]) = 10 * digitsValue t + c.digitValue?.getD 0 := by
  simp [digitsValue]

end Text

end StorageGateway
