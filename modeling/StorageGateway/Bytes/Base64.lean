import StorageGateway.Bytes.Basic

/-! The base-64 text of a byte string: four digits for three bytes, filled up with equals signs. -/
namespace StorageGateway.Bytes.Base64

/-- The digit for a number below 64. -/
def digit (n : Nat) : CodePoint :=
  if n < 26 then CodePoint.ofNat (0x41 + n)
  else if n < 52 then CodePoint.ofNat (0x61 + (n - 26))
  else if n < 62 then CodePoint.ofNat (0x30 + (n - 52))
  else if n = 62 then 0x2B
  else 0x2F

/-- The four digits of three bytes. -/
def group (a b c : Nat) : Text :=
  [digit (a / 4), digit (a % 4 * 16 + b / 16), digit (b % 16 * 4 + c / 64), digit (c % 64)]

def encode : Bytes → Text
  | a :: b :: c :: rest => group a.toNat b.toNat c.toNat ++ encode rest
  | [a, b] => (group a.toNat b.toNat 0).take 3 ++ [CodePoint.equalsSign]
  | [a] => (group a.toNat 0 0).take 2 ++ [CodePoint.equalsSign, CodePoint.equalsSign]
  | [] => []

/-- The number below 64 that a digit stands for. -/
def value? (c : CodePoint) : Option Nat :=
  if 0x41 ≤ c.val ∧ c.val ≤ 0x5A then some (c.val - 0x41)
  else if 0x61 ≤ c.val ∧ c.val ≤ 0x7A then some (c.val - 0x61 + 26)
  else if 0x30 ≤ c.val ∧ c.val ≤ 0x39 then some (c.val - 0x30 + 52)
  else if c.val = 0x2B then some 62
  else if c.val = 0x2F then some 63
  else none

/-- The three bytes of four digits. -/
def bytes (a b c d : Nat) : Bytes :=
  [UInt8.ofNat (a * 4 + b / 16), UInt8.ofNat (b % 16 * 16 + c / 4), UInt8.ofNat (c % 4 * 64 + d)]

def decode? : Text → Option Bytes
  | [] => some []
  | [a, b, c, d] =>
    if d = CodePoint.equalsSign then
      if c = CodePoint.equalsSign then do
        some ((bytes (← value? a) (← value? b) 0 0).take 1)
      else do
        some ((bytes (← value? a) (← value? b) (← value? c) 0).take 2)
    else do
      some (bytes (← value? a) (← value? b) (← value? c) (← value? d))
  | a :: b :: c :: d :: rest => do
    let first := bytes (← value? a) (← value? b) (← value? c) (← value? d)
    some (first ++ (← decode? rest))
  | _ => none

example : encode (ofAscii ("admin:secret" : String)) = Text.ofString "YWRtaW46c2VjcmV0" := by
  decide +kernel
example : decode? (Text.ofString "OnQ=") = some [0x3A, 0x74] := by decide +kernel

end StorageGateway.Bytes.Base64
