import StorageGateway.Binary64.Basic
import StorageGateway.Text.Blank
import StorageGateway.Text.Digit

/-! Reading a number that a person wrote: white space around it, digits of any script, underscores
between digits, and words for infinity and for what is not a number. -/
namespace StorageGateway.Binary64

/-- The blanks around a number: white space but not the separator controls. -/
def isMargin (c : CodePoint) : Bool :=
  c.isBlank && !(0x1C ≤ c.val && c.val ≤ 0x1F)

/-- The text in ASCII digits; what is neither ASCII nor a digit becomes a question mark. -/
def plainDigits (t : Text) : Text :=
  t.map fun c =>
    if c.isAscii then c
    else if c.isBlank then CodePoint.space
    else match c.digitValue? with
      | some d => CodePoint.ofNat (0x30 + d)
      | none => CodePoint.questionMark

/-- Removes the underscores, if each stands between two digits; `afterDigit` tells what came
before. -/
def joinDigits? (afterDigit : Bool) : Text → Option Text
  | [] => some []
  | c :: t =>
    if c = CodePoint.underscore then
      match t with
      | next :: _ => if afterDigit && next.isAsciiDigit then joinDigits? false t else none
      | [] => none
    else (joinDigits? c.isAsciiDigit t).map (c :: ·)

/-- A sign that may be missing, and whether it was a minus. -/
def takeSign : Text → Bool × Text
  | c :: t => if c = 0x2D then (true, t) else if c = 0x2B then (false, t) else (false, c :: t)
  | [] => (false, [])

/-- The exponent after the digits: nothing, or `e` with a sign and at least one digit. -/
def readExponent? : Text → Option Int
  | [] => some 0
  | c :: t =>
    let (negative, digits) := takeSign t
    if c.asciiLower = 0x65 ∧ digits ≠ [] ∧ digits.all CodePoint.isAsciiDigit then
      let n : Int := Text.digitsValue digits
      some (if negative then -n else n)
    else none

/-- Digits with at most one point and an exponent. -/
def readUnsigned? (negative : Bool) (t : Text) : Option Binary64 :=
  let whole := t.takeWhile CodePoint.isAsciiDigit
  let rest := t.dropWhile CodePoint.isAsciiDigit
  let (places, rest) := match rest with
    | c :: r =>
      if c = CodePoint.dot then
        (r.takeWhile CodePoint.isAsciiDigit, r.dropWhile CodePoint.isAsciiDigit)
      else ([], rest)
    | [] => ([], [])
  if whole = [] ∧ places = [] then none
  else (readExponent? rest).map fun e =>
    ofDecimal negative (Text.digitsValue (whole ++ places)) (e - places.length)

def read? (t : Text) : Option Binary64 := do
  let trimmed := Text.dropEndWhile isMargin ((plainDigits t).dropWhile isMargin)
  let (negative, rest) := takeSign (← joinDigits? false trimmed)
  let word := rest.map CodePoint.asciiLower
  if word = Text.ofString "inf" ∨ word = Text.ofString "infinity" then some (infinite negative)
  else if word = Text.ofString "nan" then some nan
  else readUnsigned? negative rest

example : read? (" 1_0.5e1 " : String) = some (ofRatio false 105 1) := by decide +kernel
example : read? ("1__0" : String) = none := by decide +kernel

end StorageGateway.Binary64
