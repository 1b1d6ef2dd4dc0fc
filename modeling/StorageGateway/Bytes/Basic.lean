import StorageGateway.Text.Basic

/-! Byte strings, and the reading of each byte as the code point of the same number. -/
namespace StorageGateway

abbrev Bytes := List UInt8

namespace Bytes

/-- The white space of ASCII. -/
def isBlankByte (b : UInt8) : Bool := (0x09 ≤ b && b ≤ 0x0D) || b == 0x20

/-- Whether nothing but white space is in it. -/
def isBlank (bs : Bytes) : Bool := bs.all isBlankByte

/-- The code point with the byte's number. -/
def codePoint (b : UInt8) : CodePoint :=
  ⟨b.toNat, by have := b.toNat_lt; omega⟩

/-- Every byte as the code point of its number. -/
def latin1Text (bs : Bytes) : Text := bs.map codePoint

/-- A byte above the ASCII range stands for nothing there. -/
def asciiText (bs : Bytes) : Text :=
  bs.map fun b => if b < 0x80 then codePoint b else CodePoint.replacement

@[simp] theorem latin1Text_append (s t : Bytes) :
    latin1Text (s ++ t) = latin1Text s ++ latin1Text t := by
  simp [latin1Text]

/-- Code points that cannot be written, and where they stand. -/
structure Unencodable where
  run : Text
  start : Nat
  deriving DecidableEq

/-- What does not fit in a text: the first of it that stands together. -/
def unfitting (fits : CodePoint → Bool) (t : Text) : Unencodable where
  run := (t.dropWhile fits).takeWhile fun c => !fits c
  start := (t.takeWhile fits).length

def fitsByte (c : CodePoint) : Bool := c.val < 0x100

/-- Every code point as the byte of its number, if all fit. -/
def ofLatin1 (t : Text) : Except Unencodable Bytes :=
  if t.all fitsByte then .ok (t.map fun c => UInt8.ofNat c.val)
  else .error (unfitting fitsByte t)

/-- Writing a text as bytes and reading it back gives the text. -/
theorem latin1Text_of_ofLatin1 {t : Text} {bs : Bytes} (h : ofLatin1 t = .ok bs) :
    latin1Text bs = t := by
  unfold ofLatin1 at h
  split at h
  · rename_i hall
    simp only [Except.ok.injEq] at h
    subst h
    rw [List.all_eq_true] at hall
    rw [latin1Text, List.map_map]
    conv => rhs; rw [← List.map_id t]
    apply List.map_congr_left
    intro c hc
    have hb : c.val < 256 := by simpa [fitsByte] using hall c hc
    apply Fin.ext
    simp [codePoint, Nat.mod_eq_of_lt hb]
  · simp at h

/-- What is written is ASCII text, as the bytes of the same numbers. -/
def ofAscii (t : Text) : Bytes := t.map fun c => UInt8.ofNat c.val

end Bytes

end StorageGateway
