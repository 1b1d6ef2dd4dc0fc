import StorageGateway.Decimal.Integer

/-! How a decimal with a point is written: positional while its point lies near the digits, with an
exponent of ten otherwise. -/
namespace StorageGateway.Decimal

/-- Where positional writing ends, as places of the point counted from the first digit, and the
least number of digits of an exponent. -/
structure Style where
  pointAbove : Int
  pointUpTo : Int
  exponentWidth : Nat

def zeros (n : Nat) : Text := List.replicate n '0'

/-- The exponent with its sign, filled with zeros to the style's width. -/
def Style.exponent (style : Style) (e : Int) : Text :=
  let digits := natural e.natAbs
  (if e < 0 then "-" else "+") ++ zeros (style.exponentWidth - digits.length) ++ digits

/-- Writes `digits · 10 ^ scale`. -/
def Style.write (style : Style) (digits : Nat) (scale : Int) : Text :=
  let ds := natural digits
  let point : Int := ds.length + scale
  if style.pointAbove < point ∧ point ≤ style.pointUpTo then
    if point ≤ 0 then "0." ++ zeros (-point).toNat ++ ds
    else if point < ds.length then ds.take point.toNat ++ "." ++ ds.drop point.toNat
    else ds ++ zeros (point.toNat - ds.length) ++ ".0"
  else
    let fraction : Text := if ds.length = 1 then [] else ("." : Text) ++ ds.drop 1
    ds.take 1 ++ fraction ++ "e" ++ style.exponent (point - 1)

example : Style.write ⟨-4, 16, 2⟩ 15 (-1) = Text.ofString "1.5" := by decide
example : Style.write ⟨-4, 16, 2⟩ 1 16 = Text.ofString "1e+16" := by decide
example : Style.write ⟨-4, 16, 2⟩ 1 (-5) = Text.ofString "1e-05" := by decide
example : Style.write ⟨-4, 16, 2⟩ 0 0 = Text.ofString "0.0" := by decide

end StorageGateway.Decimal
