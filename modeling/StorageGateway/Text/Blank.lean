import StorageGateway.Text.Basic

/-! White space, and texts without it at their ends. -/
namespace StorageGateway

/-- Unicode white space, with the four separator controls U+001C to U+001F. -/
def CodePoint.isBlank (c : CodePoint) : Bool :=
  (0x09 ≤ c.val && c.val ≤ 0x0D) || (0x1C ≤ c.val && c.val ≤ 0x20) || c.val == 0x85 ||
    c.val == 0xA0 || c.val == 0x1680 || (0x2000 ≤ c.val && c.val ≤ 0x200A) || c.val == 0x2028 ||
    c.val == 0x2029 || c.val == 0x202F || c.val == 0x205F || c.val == 0x3000

namespace Text

def trimStart (t : Text) : Text := t.dropWhile CodePoint.isBlank

def trimEnd (t : Text) : Text := t.dropEndWhile CodePoint.isBlank

def trim (t : Text) : Text := trimEnd (trimStart t)

@[simp] theorem trim_nil : trim [] = [] := rfl

theorem trimStart_eq_self {c : CodePoint} {t : Text} (h : c.isBlank = false) :
    trimStart (c :: t) = c :: t := by
  simp [trimStart, h]

end Text

end StorageGateway
