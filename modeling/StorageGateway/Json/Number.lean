import StorageGateway.Binary64.Shortest

/-! How numbers with a point are written: positional from 0.0001 up to sixteen digits before the
point, beyond that with an exponent of at least two digits. -/
namespace StorageGateway.Json

def numberStyle : Decimal.Style := ⟨-4, 16, 2⟩

/-- The words for what is no finite number. -/
structure SpecialWords where
  nan : Text
  infinity : Text

def numberText (words : SpecialWords) : Binary64 → Text
  | .nan => words.nan
  | .infinite negative => Decimal.sign negative ++ words.infinity
  | .finite negative significand exponent =>
    Binary64.finiteText numberStyle negative significand exponent

/-- The words inside JSON. -/
def jsonWords : SpecialWords := ⟨"NaN", "Infinity"⟩

/-- The words in running text. -/
def plainWords : SpecialWords := ⟨"nan", "inf"⟩

example : numberText plainWords (Binary64.ofRatio false 30 1) = Text.ofString "30.0" := by
  decide +kernel
example : numberText jsonWords (.infinite true) = Text.ofString "-Infinity" := by decide

end StorageGateway.Json
