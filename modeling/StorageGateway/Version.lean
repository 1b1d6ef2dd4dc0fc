import StorageGateway.Fault
import StorageGateway.Text.Blank

/-! Versions of the gateway's protocol. A session keeps the text that the gateway gave; what counts
of it is the number in front, and the number after a point that follows. -/
namespace StorageGateway

structure Version where
  major : Nat
  minor : Nat
  deriving DecidableEq

namespace Version

/-- The digits in front of a text, and the rest. -/
def takeDigits (t : Text) : Text × Text :=
  (t.takeWhile CodePoint.isDigit, t.dropWhile CodePoint.isDigit)

/-- The digits after a point in front, empty when there are none. -/
def minorDigits (t : Text) : Text :=
  match t with
  | c :: r => if c = CodePoint.dot then (takeDigits r).1 else []
  | [] => []

/-- A number of the length that is accepted. -/
def readNumber (digits : Text) : Except Fault Nat :=
  if Json.mostDigits < digits.length then .error (.ofMishap (.integerTooLong digits.length))
  else .ok digits.digitsValue

def invalid (t : Text) : Failure where
  kind := .version
  message := "invalid PowerFlex protocol version " ++ t.quoted

/-- Reads the two numbers in front of a text, after blanks. A missing or empty text has none. -/
def parse (version : Option Text) : Except Fault (Option Version) :=
  match version with
  | none | some [] => .ok none
  | some t =>
    let (digits, rest) := takeDigits t.trimStart
    if digits = [] then .error (.ofFailure (invalid t))
    else do
      let major ← readNumber digits
      let minor ← readNumber (minorDigits rest)
      return some ⟨major, minor⟩

/-- The two numbers with their point, if the text starts with them, else the whole text. -/
def extract (raw : Text) : Text :=
  let (digits, rest) := takeDigits raw
  let minor := minorDigits rest
  if digits ≠ [] ∧ minor ≠ [] then digits ++ [CodePoint.dot] ++ minor else raw

/-- The order of versions: by the first number, then by the second. -/
def atLeast (v least : Version) : Bool :=
  least.major < v.major || (least.major == v.major && least.minor ≤ v.minor)

end Version

/-- What the gateways of a family of versions can do. -/
structure Capabilities where
  label : Text
  since : Version
  bearerToken : Bool

namespace Capabilities

def legacy : Capabilities := ⟨"3.x", ⟨0, 0⟩, false⟩

/-- The families in the order of their first versions. -/
def families : List Capabilities := [legacy, ⟨"4.0", ⟨4, 0⟩, true⟩]

/-- The last family that had begun by then. -/
def ofVersion (v : Version) : Capabilities :=
  families.foldl (fun best family => if v.atLeast family.since then family else best) legacy

/-- An unknown version has the capabilities of the oldest family. -/
def resolve (version : Option Text) : Except Fault Capabilities := do
  match ← Version.parse version with
  | some v => return ofVersion v
  | none => return legacy

end Capabilities

end StorageGateway
