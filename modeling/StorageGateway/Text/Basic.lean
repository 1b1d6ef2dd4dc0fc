/-! Texts as lists of code points. Gateway bodies may spell half of a surrogate pair on its own, so
a text holds any code point and not only the scalar values of a `Char`. -/
namespace StorageGateway

/-- A code point, surrogates included. -/
abbrev CodePoint := Fin 0x110000

/-- Numerals are code points, since there are any at all. -/
instance CodePoint.neZeroBound : @NeZero Nat Zero.ofOfNat0 0x110000 := ⟨by decide⟩

instance CodePoint.lawfulBEq : LawfulBEq CodePoint := inferInstance

abbrev Text := List CodePoint

instance Text.lawfulBEq : LawfulBEq Text := inferInstance

namespace CodePoint

def ofChar (c : Char) : CodePoint :=
  ⟨c.toNat, by
    have h : c.toNat < 0xD800 ∨ (0xDFFF < c.toNat ∧ c.toNat < 0x110000) := c.valid
    omega⟩

@[simp] theorem val_ofChar (c : Char) : (ofChar c).val = c.toNat := rfl

/-- What stands for anything that is not a code point or cannot be decoded. -/
def replacement : CodePoint := 0xFFFD

def ofNat (n : Nat) : CodePoint :=
  if h : n < 0x110000 then ⟨n, h⟩ else replacement

@[simp] theorem val_ofNat_of_lt {n : Nat} (h : n < 0x110000) : (ofNat n).val = n := by
  simp [ofNat, h]

def isHighSurrogate (c : CodePoint) : Bool := 0xD800 ≤ c.val && c.val < 0xDC00

def isLowSurrogate (c : CodePoint) : Bool := 0xDC00 ≤ c.val && c.val < 0xE000

def isSurrogate (c : CodePoint) : Bool := 0xD800 ≤ c.val && c.val < 0xE000

/-- The code point that a high and a low surrogate stand for together. -/
def ofHalves (high low : CodePoint) : CodePoint :=
  ofNat (0x10000 + (high.val - 0xD800) * 0x400 + (low.val - 0xDC00))

def isAscii (c : CodePoint) : Bool := c.val < 0x80

def isAsciiLetter (c : CodePoint) : Bool :=
  (0x41 ≤ c.val && c.val ≤ 0x5A) || (0x61 ≤ c.val && c.val ≤ 0x7A)

def isAsciiDigit (c : CodePoint) : Bool := 0x30 ≤ c.val && c.val ≤ 0x39

/-- The value of a hexadecimal digit of either case. -/
def hexValue? (c : CodePoint) : Option Nat :=
  if c.isAsciiDigit then some (c.val - 0x30)
  else if 0x61 ≤ c.val ∧ c.val ≤ 0x66 then some (c.val - 0x57)
  else if 0x41 ≤ c.val ∧ c.val ≤ 0x46 then some (c.val - 0x37)
  else none

/-- ASCII capitals become small letters, all else stays. -/
def asciiLower (c : CodePoint) : CodePoint :=
  if 0x41 ≤ c.val ∧ c.val ≤ 0x5A then ofNat (c.val + 0x20) else c

def newline : CodePoint := 0x0A
def space : CodePoint := 0x20
def quotation : CodePoint := 0x22
def apostrophe : CodePoint := 0x27
def comma : CodePoint := 0x2C
def dot : CodePoint := 0x2E
def slash : CodePoint := 0x2F
def colon : CodePoint := 0x3A
def semicolon : CodePoint := 0x3B
def questionMark : CodePoint := 0x3F
def atSign : CodePoint := 0x40
def numberSign : CodePoint := 0x23
def backslash : CodePoint := 0x5C
def openBracket : CodePoint := 0x5B
def closeBracket : CodePoint := 0x5D
def openBrace : CodePoint := 0x7B
def closeBrace : CodePoint := 0x7D
def underscore : CodePoint := 0x5F
def hyphen : CodePoint := 0x2D
def equalsSign : CodePoint := 0x3D

end CodePoint

instance : Coe Char CodePoint := ⟨CodePoint.ofChar⟩

namespace Text

def ofString (s : String) : Text := s.toList.map CodePoint.ofChar

instance : Coe String Text := ⟨ofString⟩

/-- The text as characters, each lone surrogate replaced. -/
def toString (t : Text) : String :=
  String.ofList (t.map fun c => if c.isSurrogate then '\ufffd' else Char.ofNat c.val)

/-- `t` without `p` in front, or `t` itself when it does not start with `p`. -/
def withoutLeading (p t : Text) : Text := (p.isPrefixOf? t).getD t

/-- `t` without `p` at its end, or `t` itself when it does not end with `p`. -/
def withoutTrailing (p t : Text) : Text := (p.isSuffixOf? t).getD t

/-- Drops the longest run at the end whose code points all meet `p`. -/
def dropEndWhile (p : CodePoint → Bool) (t : Text) : Text := (t.reverse.dropWhile p).reverse

/-- Whether `p` occurs somewhere in `t`. -/
def holds (p : Text) : Text → Bool
  | [] => p.isEmpty
  | c :: t => p.isPrefixOf (c :: t) || holds p t

/-- The parts between the separators; there is always at least one part. -/
def splitOn (sep : CodePoint) : Text → List Text
  | [] => [[]]
  | c :: t =>
    if c = sep then [] :: splitOn sep t
    else match splitOn sep t with
      | [] => [[c]]
      | part :: parts => (c :: part) :: parts

/-- The parts, with the separator between neighbours. -/
def joinWith (sep : Text) : List Text → Text
  | [] => []
  | [part] => part
  | part :: next :: parts => part ++ sep ++ joinWith sep (next :: parts)

/-- Splits at the first occurrence of `sep`, which belongs to neither side. -/
def splitFirst? (sep : CodePoint) : Text → Option (Text × Text)
  | [] => none
  | c :: t =>
    if c = sep then some ([], t)
    else (splitFirst? sep t).map fun (a, b) => (c :: a, b)

/-- Splits at the last occurrence of `sep`, which belongs to neither side. -/
def splitLast? (sep : CodePoint) (t : Text) : Option (Text × Text) :=
  (splitFirst? sep t.reverse).map fun (b, a) => (a.reverse, b.reverse)

theorem splitOn_ne_nil (sep : CodePoint) (t : Text) : splitOn sep t ≠ [] := by
  induction t with
  | nil => simp [splitOn]
  | cons c t ih =>
    simp only [splitOn]
    split
    · simp
    · split <;> simp

/-- Splitting loses nothing. -/
theorem joinWith_splitOn (sep : CodePoint) (t : Text) : joinWith [sep] (splitOn sep t) = t := by
  induction t with
  | nil => rfl
  | cons c t ih =>
    have hne := splitOn_ne_nil sep t
    simp only [splitOn]
    split
    · rename_i h
      cases hs : splitOn sep t with
      | nil => exact absurd hs hne
      | cons part parts => rw [hs] at ih; simp [joinWith, h, ih]
    · cases hs : splitOn sep t with
      | nil => exact absurd hs hne
      | cons part parts =>
        rw [hs] at ih
        cases parts with
        | nil => simpa [joinWith] using ih
        | cons next parts => simpa [joinWith] using ih

end Text

end StorageGateway
