import StorageGateway.Bytes.Basic

/-! UTF-16 in either byte order. -/
namespace StorageGateway.Bytes.Utf16

inductive ByteOrder where
  | big | little
  deriving DecidableEq

/-- The 16-bit units, and whether a single byte is left over. -/
def units (order : ByteOrder) : Bytes → List CodePoint × Bool
  | a :: b :: bs =>
    let (us, odd) := units order bs
    let unit := if order = .big then a.toNat * 256 + b.toNat else b.toNat * 256 + a.toNat
    (CodePoint.ofNat unit :: us, odd)
  | [_] => ([], true)
  | [] => ([], false)

/-- Joins halves that belong together and keeps the others as they are. -/
def joinUnits : List CodePoint → Text
  | high :: low :: us =>
    if high.isHighSurrogate && low.isLowSurrogate then CodePoint.ofHalves high low :: joinUnits us
    else high :: joinUnits (low :: us)
  | [unit] => [unit]
  | [] => []

/-- Decodes any units, but no single byte at the end. -/
def decode? (order : ByteOrder) (bs : Bytes) : Option Text :=
  let (us, odd) := units order bs
  if odd then none else some (joinUnits us)

/-- Decodes with a replacement for each half without its other half and for a byte left over; a high
half at the very end takes that byte with it. -/
def replaceUnits (odd : Bool) : List CodePoint → Text
  | high :: low :: us =>
    if high.isHighSurrogate then
      if low.isLowSurrogate then CodePoint.ofHalves high low :: replaceUnits odd us
      else CodePoint.replacement :: replaceUnits odd (low :: us)
    else (if high.isLowSurrogate then CodePoint.replacement else high) ::
      replaceUnits odd (low :: us)
  | [unit] =>
    if unit.isHighSurrogate then [CodePoint.replacement]
    else (if unit.isLowSurrogate then CodePoint.replacement else unit) ::
      (if odd then [CodePoint.replacement] else [])
  | [] => if odd then [CodePoint.replacement] else []

def decodeLossy (order : ByteOrder) (bs : Bytes) : Text :=
  let (us, odd) := units order bs
  replaceUnits odd us

end StorageGateway.Bytes.Utf16
