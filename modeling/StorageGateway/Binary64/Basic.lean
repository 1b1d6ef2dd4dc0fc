import StorageGateway.Decimal.Rounding

/-! Numbers in the 64-bit binary format, as exact values: a significand below `2 ^ 53` and a power
of two no less than `-1074`. Every operation computes the exact result first and rounds it once. -/
namespace StorageGateway

inductive Binary64 where
  | nan
  | infinite (negative : Bool)
  /-- The number `significand · 2 ^ exponent`, negated or not; zero has a sign. -/
  | finite (negative : Bool) (significand : Nat) (exponent : Int)
  deriving DecidableEq

namespace Binary64

def leastExponent : Int := -1074
def greatestExponent : Int := 971

/-- The first significand that needs more than 53 bits. -/
def significandBound : Nat := Nat.pow 2 53

def zero (negative : Bool) : Binary64 := finite negative 0 leastExponent

/-- The greatest `k` with `2 ^ k ≤ num / den`. -/
def binaryLog (num den : Nat) : Int :=
  let k : Int := (Nat.log2 num : Int) - Nat.log2 den
  if den * Nat.pow 2 k.toNat ≤ num * Nat.pow 2 (-k).toNat then k else k - 1

/-- The number with this rounded significand, which may have grown to the next power of two. -/
def pack (negative : Bool) (significand : Nat) (exponent : Int) : Binary64 :=
  if significand < significandBound then
    if exponent ≤ greatestExponent then finite negative significand exponent
    else infinite negative
  else if exponent < greatestExponent then finite negative (significand / 2) (exponent + 1)
  else infinite negative

/-- The number nearest to `num / den`, of two that are equally near the one with the even
significand. -/
def ofRatio (negative : Bool) (num den : Nat) : Binary64 :=
  if num = 0 then zero negative
  else
    let e := max leastExponent (binaryLog num den - 52)
    pack negative (Decimal.roundHalfEven (num * Nat.pow 2 (-e).toNat) (den * Nat.pow 2 e.toNat)) e

/-- The number nearest to an integer; none when that is out of range. -/
def ofInt? (i : Int) : Option Binary64 :=
  match ofRatio (i < 0) i.natAbs 1 with
  | infinite _ => none
  | x => some x

/-- Above this many digits before the point a number is out of range. -/
def mostIntegerDigits : Int := 310

/-- With this many zeros after the point a number is closer to zero than to any other. -/
def mostLeadingZeros : Int := 330

/-- The number nearest to `digits · 10 ^ scale`. -/
def ofDecimal (negative : Bool) (digits : Nat) (scale : Int) : Binary64 :=
  let point : Int := (Nat.toDigits 10 digits).length + scale
  if digits = 0 then zero negative
  else if mostIntegerDigits < point then infinite negative
  else if point < -mostLeadingZeros then zero negative
  else ofRatio negative (digits * Nat.pow 10 scale.toNat) (Nat.pow 10 (-scale).toNat)

/-- The number divided by `2 ^ k`. -/
def shiftedDown (k : Nat) : Binary64 → Binary64
  | finite negative significand exponent =>
    ofRatio negative (significand * Nat.pow 2 exponent.toNat)
      (Nat.pow 2 (-exponent).toNat * Nat.pow 2 k)
  | x => x

def isZero : Binary64 → Bool
  | finite _ significand _ => significand == 0
  | _ => false

example : ofRatio false 1 1 = finite false (2 ^ 52) (-52) := by decide
example : ofDecimal false 5 (-324) = finite false 1 (-1074) := by decide +kernel
example : ofInt? (2 ^ 53 + 1) = some (finite false (2 ^ 52) 1) := by decide

end Binary64

end StorageGateway
