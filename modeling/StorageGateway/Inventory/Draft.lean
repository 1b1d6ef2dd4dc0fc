import StorageGateway.Access
import StorageGateway.Json.Printer

/-! The fields of a thing to be made, as a caller may give them: an object, or a row of pairs of a
name and a value. Of pairs with the same name the first gives the place and the last the value. -/
namespace StorageGateway.Draft

/-- The exact number `m / 2 ^ k` that a scalar stands for; truth values count as zero and one. -/
def quotient? : Json → Option (Int × Nat)
  | .bool b => some (if b then 1 else 0, 0)
  | .int i => some (i, 0)
  | .float (.finite negative significand exponent) =>
    let m : Int := significand * Nat.pow 2 exponent.toNat
    some (if negative then -m else m, (-exponent).toNat)
  | _ => none

/-- Whether two names are one: equal texts, equal numbers however they are written, or both null. -/
def sameName : Json → Json → Bool
  | .str a, .str b => a == b
  | .null, .null => true
  | a, b =>
    match quotient? a, quotient? b with
    | some (m, k), some (n, l) => m * Nat.pow 2 l == n * Nat.pow 2 k
    | none, none =>
      match a, b with
      | .float x, .float y => x == y
      | _, _ => false
    | _, _ => false

/-- What a name is called in JSON. -/
def nameText : Json → Text
  | .str t => t
  | other => other.printLeaf

def put (name value : Json) : List (Json × Json) → List (Json × Json)
  | [] => [(name, value)]
  | (n, v) :: pairs =>
    if sameName n name then (n, value) :: pairs else (n, v) :: put name value pairs

/-- Reads the pair with this number. Lists and objects cannot be names. -/
def readPair (index : Nat) (v : Json) : Except Fault (Json × Json) :=
  match v.items? with
  | none => .error (.ofMishap (.notASequence index))
  | some [.arr _, _] => .error (.ofMishap (.unhashable .arr))
  | some [.obj _, _] => .error (.ofMishap (.unhashable .obj))
  | some [name, value] => .ok (name, value)
  | some parts => .error (.ofMishap (.notAPair index parts.length))

/-- Reads pairs that are counted from `index` and adds them to those that came before. -/
def readPairs (index : Nat) (before : List (Json × Json)) :
    List Json → Except Fault (List (Json × Json))
  | [] => .ok before
  | v :: vs => do
    let (name, value) ← readPair index v
    readPairs (index + 1) (put name value before) vs

/-- The fields of a draft as a JSON object. -/
def ofJson : Json → Except Fault Json
  | .obj fields => .ok (.obj fields)
  | other => do
    let pairs ← readPairs 0 [] (← other.parts)
    return .obj (pairs.map fun pair => (nameText pair.1, pair.2))

@[simp] theorem ofJson_obj (fields : Fields Json) : ofJson (.obj fields) = .ok (.obj fields) := rfl

example : sameName (.int 1) (.bool true) = true := by decide
example : sameName (.int 2) (.float (Binary64.ofRatio false 2 1)) = true := by decide +kernel
example : sameName (.int 0) (.float .nan) = false := by decide

end StorageGateway.Draft
