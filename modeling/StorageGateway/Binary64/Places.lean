import StorageGateway.Binary64.Basic
import StorageGateway.Decimal.Integer

/-! Numbers with a fixed count of places after the point, the last one rounded from the exact
value. -/
namespace StorageGateway.Binary64

/-- `n` in units of the last place, with `places` digits after the point. -/
def placedText (places n : Nat) : Text :=
  let ds := Decimal.natural n
  let padded := List.replicate (places + 1 - ds.length) (0x30 : CodePoint) ++ ds
  padded.take (padded.length - places) ++ "." ++ padded.drop (padded.length - places)

/-- Units of the last place in the number, by the nearest integer with ties to even. -/
def placedUnits (places significand : Nat) (exponent : Int) : Nat :=
  Decimal.roundHalfEven (significand * Nat.pow 2 exponent.toNat * Nat.pow 10 places)
    (Nat.pow 2 (-exponent).toNat)

def fixedText (places : Nat) : Binary64 → Text
  | nan => "nan"
  | infinite negative => if negative then "-inf" else "inf"
  | finite negative significand exponent =>
    Decimal.sign negative ++ placedText places (placedUnits places significand exponent)

example : fixedText 2 (ofRatio false 1 8) = Text.ofString "0.12" := by decide +kernel
example : fixedText 2 (ofRatio true 1 1000) = Text.ofString "-0.00" := by decide +kernel

end StorageGateway.Binary64
