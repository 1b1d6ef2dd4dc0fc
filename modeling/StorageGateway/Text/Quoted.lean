import StorageGateway.Text.Hexadecimal
import StorageGateway.Text.Printable

/-! A text between quotes, for a reader's eye: apostrophes around it unless it holds one and no
quotation mark, and an escape for whatever is not printable. -/
namespace StorageGateway.Text

/-- The mark around the quoted form of `t`. -/
def quoteMark (t : Text) : CodePoint :=
  if CodePoint.apostrophe ∈ t ∧ CodePoint.quotation ∉ t then CodePoint.quotation
  else CodePoint.apostrophe

/-- An escape that writes the code point's number in as few of 2, 4 or 8 digits as hold it. -/
def numberEscape (c : CodePoint) : Text :=
  if c.val < 0x100 then "\\x" ++ hexadecimal 2 c.val
  else if c.val < 0x10000 then "\\u" ++ hexadecimal 4 c.val
  else "\\U" ++ hexadecimal 8 c.val

def quotedCodePoint (mark c : CodePoint) : Text :=
  if c = mark ∨ c = CodePoint.backslash then [CodePoint.backslash, c]
  else if c = 0x0A then "\\n"
  else if c = 0x0D then "\\r"
  else if c = 0x09 then "\\t"
  else if c.isPrintable then [c]
  else numberEscape c

def quoted (t : Text) : Text :=
  [quoteMark t] ++ t.flatMap (quotedCodePoint (quoteMark t)) ++ [quoteMark t]

example : quoted ("it's" : String) = Text.ofString "\"it's\"" := by decide
example : quoted [0x0A, 0xA0, 0x4E2D] = Text.ofString "'\\n\\xa0中'" := by decide +kernel

end StorageGateway.Text
