import StorageGateway.Binary64.Basic
import StorageGateway.Decimal.Style

/-! The shortest decimal that reads back as a given number. Its candidates on each decimal grid are
the number's two neighbours; the coarsest grid with a candidate that reads back decides. -/
namespace StorageGateway.Binary64

/-- A positive number and the reals that round to it, all as multiples of one positive unit. -/
structure Interval where
  low : Nat
  value : Nat
  high : Nat
  /-- The ends belong to the interval when the significand is even. -/
  closed : Bool
  /-- The unit is `2 ^ unit`. -/
  unit : Int

/-- Below a power of two the neighbour is half as far away as above it. -/
def Interval.around (significand : Nat) (exponent : Int) : Interval where
  low := if significand = Nat.pow 2 52 ∧ leastExponent < exponent then 4 * significand - 1
    else 4 * significand - 2
  value := 4 * significand
  high := 4 * significand + 2
  closed := significand % 2 == 0
  unit := exponent - 2

namespace Interval

/-- `x` units over `10 ^ k`, as numerator and denominator. -/
def overPowerOfTen (i : Interval) (x : Nat) (k : Int) : Nat × Nat :=
  (x * Nat.pow 2 i.unit.toNat * Nat.pow 10 (-k).toNat,
    Nat.pow 2 (-i.unit).toNat * Nat.pow 10 k.toNat)

/-- Whether `d · 10 ^ k` rounds to the number. -/
def holds (i : Interval) (d : Nat) (k : Int) : Bool :=
  let (low, den) := i.overPowerOfTen i.low k
  let (high, _) := i.overPowerOfTen i.high k
  if i.closed then low ≤ d * den && d * den ≤ high else low < d * den && d * den < high

/-- The greatest `k` with `10 ^ k` no greater than the number. -/
def decimalLog (i : Interval) : Int :=
  let (num, den) := i.overPowerOfTen i.value 0
  if den ≤ num then (Nat.toDigits 10 (num / den)).length - 1
  else
    let places := (Nat.toDigits 10 (den / num)).length
    if num * Nat.pow 10 (places - 1) = den then -(places - 1 : Int) else -places

/-- The neighbour on the grid of `10 ^ k` that reads back, the nearer one if both do. -/
def candidate? (i : Interval) (k : Int) : Option Nat :=
  let (num, den) := i.overPowerOfTen i.value k
  let nearest := Decimal.roundHalfEven num den
  let below := num / den
  if i.holds nearest k then some nearest
  else if i.holds below k then some below
  else if i.holds (below + 1) k then some (below + 1)
  else none

/-- Tries grids of `digits` significant digits and more. -/
def search (i : Interval) : (tries digits : Nat) → Option (Nat × Int)
  | 0, _ => none
  | tries + 1, digits =>
    let k := i.decimalLog + 1 - digits
    match i.candidate? k with
    | some d => some (d, k)
    | none => i.search tries (digits + 1)

end Interval

/-- Takes the zeros off the end of `digits` and raises the scale by as much. -/
def withoutZeros : (tries digits : Nat) → Int → Nat × Int
  | 0, digits, scale => (digits, scale)
  | tries + 1, digits, scale =>
    if digits ≠ 0 ∧ digits % 10 = 0 then withoutZeros tries (digits / 10) (scale + 1)
    else (digits, scale)

/-- Digits and scale of the shortest decimal; seventeen digits always suffice. -/
def shortest (significand : Nat) (exponent : Int) : Nat × Int :=
  if significand = 0 then (0, 0)
  else match (Interval.around significand exponent).search 17 1 with
    | some (d, k) => withoutZeros 20 d k
    | none => (significand, exponent)

/-- A number without its special values, written in `style`. -/
def finiteText (style : Decimal.Style) (negative : Bool) (significand : Nat) (exponent : Int) :
    Text :=
  let (digits, scale) := shortest significand exponent
  Decimal.sign negative ++ style.write digits scale

example : shortest 1 (-1074) = (5, -324) := by decide +kernel
example : shortest 3602879701896397 (-55) = (1, -1) := by decide +kernel
example : shortest (2 ^ 52) (-96) = (5684341886080802, -29) := by decide +kernel

end StorageGateway.Binary64
