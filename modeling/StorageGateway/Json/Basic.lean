import StorageGateway.Binary64.Basic
import StorageGateway.Fields

/-! JSON values. Integers have no bound and are kept apart from numbers with a point or an exponent;
the fields of an object keep their order. -/
namespace StorageGateway

inductive Json where
  | null
  | bool (b : Bool)
  | int (i : Int)
  | float (x : Binary64)
  | str (t : Text)
  | arr (items : List Json)
  | obj (fields : List (Text × Json))

namespace Json

inductive Kind where
  | null | bool | int | float | str | arr | obj
  deriving DecidableEq

def kind : Json → Kind
  | null => .null
  | bool _ => .bool
  | int _ => .int
  | float _ => .float
  | str _ => .str
  | arr _ => .arr
  | obj _ => .obj

/-- Null, false, zero and whatever is empty count as nothing. -/
def isTruthy : Json → Bool
  | null => false
  | bool b => b
  | int i => i != 0
  | float x => !x.isZero
  | str t => !t.isEmpty
  | arr items => !items.isEmpty
  | obj fields => !fields.isEmpty

/-- The value as a text, if it is one. -/
def text? : Json → Option Text
  | str t => some t
  | _ => none

def field? (name : Text) : Json → Option Json
  | obj fields => Fields.get? name fields
  | _ => none

def isObject : Json → Bool
  | obj _ => true
  | _ => false

/-- What one meets in going through a value: the items of a list, the names of an object, the code
points of a text. -/
def items? : Json → Option (List Json)
  | arr items => some items
  | obj fields => some (fields.map fun field => str field.1)
  | str t => some (t.map fun c => str [c])
  | _ => none

end Json

end StorageGateway
