import StorageGateway.Bytes.Basic

/-! UTF-8. A decoder either stands between code points or knows how many bytes it is owed, in which
bounds the next one lies and what the bytes so far say. -/
namespace StorageGateway.Bytes.Utf8

/-- The bytes of a code point; a surrogate is written like any other. -/
def encodeCodePoint (c : CodePoint) : Bytes :=
  let n := c.val
  if n < 0x80 then [UInt8.ofNat n]
  else if n < 0x800 then [UInt8.ofNat (0xC0 + n / 0x40), UInt8.ofNat (0x80 + n % 0x40)]
  else if n < 0x10000 then
    [UInt8.ofNat (0xE0 + n / 0x1000), UInt8.ofNat (0x80 + n / 0x40 % 0x40),
      UInt8.ofNat (0x80 + n % 0x40)]
  else
    [UInt8.ofNat (0xF0 + n / 0x40000), UInt8.ofNat (0x80 + n / 0x1000 % 0x40),
      UInt8.ofNat (0x80 + n / 0x40 % 0x40), UInt8.ofNat (0x80 + n % 0x40)]

def encode (t : Text) : Bytes := t.flatMap encodeCodePoint

/-- What is owed inside a sequence: `tails` more bytes, the next one from `low` to `high`. -/
structure Owed where
  tails : Nat
  low : Nat
  high : Nat
  value : Nat

inductive Step where
  | done (c : CodePoint)
  | more (owed : Owed)
  | refused

/-- The first byte of a sequence. Sequences for surrogates go on only where they are admitted. -/
def first (surrogates : Bool) (b : Nat) : Step :=
  if b < 0x80 then .done (CodePoint.ofNat b)
  else if b < 0xC2 then .refused
  else if b < 0xE0 then .more ⟨1, 0x80, 0xBF, b - 0xC0⟩
  else if b = 0xE0 then .more ⟨2, 0xA0, 0xBF, 0⟩
  else if b = 0xED then .more ⟨2, 0x80, if surrogates then 0xBF else 0x9F, 0xD⟩
  else if b < 0xF0 then .more ⟨2, 0x80, 0xBF, b - 0xE0⟩
  else if b = 0xF0 then .more ⟨3, 0x90, 0xBF, 0⟩
  else if b < 0xF4 then .more ⟨3, 0x80, 0xBF, b - 0xF0⟩
  else if b = 0xF4 then .more ⟨3, 0x80, 0x8F, 4⟩
  else .refused

/-- A byte inside a sequence. -/
def next (owed : Owed) (b : Nat) : Step :=
  if owed.low ≤ b ∧ b ≤ owed.high then
    let value := owed.value * 0x40 + (b - 0x80)
    if owed.tails ≤ 1 then .done (CodePoint.ofNat value)
    else .more ⟨owed.tails - 1, 0x80, 0xBF, value⟩
  else .refused

/-- Decodes with one replacement for each longest start of a sequence that does not end it. -/
def decodeLossyFrom : Option Owed → Bytes → Text
  | none, [] => []
  | some _, [] => [CodePoint.replacement]
  | none, b :: bs =>
    match first false b.toNat with
    | .done c => c :: decodeLossyFrom none bs
    | .more owed => decodeLossyFrom (some owed) bs
    | .refused => CodePoint.replacement :: decodeLossyFrom none bs
  | some owed, b :: bs =>
    match next owed b.toNat with
    | .done c => c :: decodeLossyFrom none bs
    | .more owed => decodeLossyFrom (some owed) bs
    | .refused =>
      CodePoint.replacement ::
        match first false b.toNat with
        | .done c => c :: decodeLossyFrom none bs
        | .more owed => decodeLossyFrom (some owed) bs
        | .refused => CodePoint.replacement :: decodeLossyFrom none bs

def decodeLossy (bs : Bytes) : Text := decodeLossyFrom none bs

/-- Decodes sequences of any code point, surrogates included, and fails on all else. -/
def decodeFrom? : Option Owed → Bytes → Option Text
  | none, [] => some []
  | some _, [] => none
  | state, b :: bs =>
    match state.elim (first true b.toNat) (next · b.toNat) with
    | .done c => (decodeFrom? none bs).map (c :: ·)
    | .more owed => decodeFrom? (some owed) bs
    | .refused => none

def decode? (bs : Bytes) : Option Text := decodeFrom? none bs

def byteOrderMark : Bytes := [0xEF, 0xBB, 0xBF]

/-- The bytes without a mark in front. -/
def withoutMark (bs : Bytes) : Bytes := (byteOrderMark.isPrefixOf? bs).getD bs

example : decodeLossy [0xED, 0xA0, 0x80] = List.replicate 3 CodePoint.replacement := by decide
example : decodeLossy [0xF0, 0x9F, 0x98] = [CodePoint.replacement] := by decide
example : decode? [0xED, 0xA0, 0x80] = some [0xD800] := by decide

end StorageGateway.Bytes.Utf8
