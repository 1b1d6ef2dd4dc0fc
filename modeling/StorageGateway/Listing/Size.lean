import StorageGateway.Access
import StorageGateway.Binary64.Places
import StorageGateway.Binary64.Reading

/-! Sizes given in KiB and shown in GiB, with two places after the point. -/
namespace StorageGateway.Listing.Size

/-- A size as a number, from whatever a gateway may write for it. An integer beyond all binary
numbers is a fault, what is no number at all is nothing. -/
def number? : Json → Except Fault (Option Binary64)
  | .bool b => .ok (some (Binary64.ofRatio false (if b then 1 else 0) 1))
  | .int i =>
    match Binary64.ofInt? i with
    | some x => .ok (some x)
    | none => .error (.ofMishap .numberTooLarge)
  | .float x => .ok (some x)
  | .str t => .ok (Binary64.read? t)
  | _ => .ok none

/-- There are `2 ^ 20` KiB in a GiB. -/
def unitShift : Nat := 20

def shownPlaces : Nat := 2

/-- The text of a number of KiB in GiB. -/
def gibText (kib : Binary64) : Text := Binary64.fixedText shownPlaces (kib.shiftedDown unitShift)

/-- The text in a column of sizes, empty for what is no number. -/
def text (v : Json) : Except Fault Text := do
  match ← number? v with
  | some kib => return gibText kib
  | none => return []

example : gibText (Binary64.ofRatio false 8388608 1) = Text.ofString "8.00" := by decide +kernel
example : gibText (Binary64.ofRatio true 100 1) = Text.ofString "-0.00" := by decide +kernel

end StorageGateway.Listing.Size
