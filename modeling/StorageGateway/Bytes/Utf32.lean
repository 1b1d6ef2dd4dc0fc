import StorageGateway.Bytes.Utf16

/-! UTF-32 in either byte order. -/
namespace StorageGateway.Bytes.Utf32

def word (order : Utf16.ByteOrder) (a b c d : UInt8) : Nat :=
  if order = .big then ((a.toNat * 256 + b.toNat) * 256 + c.toNat) * 256 + d.toNat
  else ((d.toNat * 256 + c.toNat) * 256 + b.toNat) * 256 + a.toNat

/-- Decodes words that are code points, surrogates included. -/
def decode? (order : Utf16.ByteOrder) : Bytes → Option Text
  | a :: b :: c :: d :: bs =>
    let n := word order a b c d
    if h : n < 0x110000 then (decode? order bs).map (⟨n, h⟩ :: ·) else none
  | [] => some []
  | _ => none

end StorageGateway.Bytes.Utf32
