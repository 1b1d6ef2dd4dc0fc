import StorageGateway.Fault

/-! Asking a value for what only some kinds of value have: fields, or parts to go through. -/
namespace StorageGateway.Json

/-- The fields of an object. -/
def fields (v : Json) : Except Fault (Fields Json) :=
  match v with
  | obj fs => .ok fs
  | other => .error (.ofMishap (.withoutFields other.kind))

/-- The field of an object, if it has one of that name. -/
def access (name : Text) (v : Json) : Except Fault (Option Json) := v.fields.map (Fields.get? name)

/-- The parts of a value that can be gone through. -/
def parts (v : Json) : Except Fault (List Json) :=
  match v.items? with
  | some items => .ok items
  | none => .error (.ofMishap (.notIterable v.kind))

@[simp] theorem fields_obj (fs : Fields Json) : fields (obj fs) = .ok fs := rfl

@[simp] theorem access_obj (name : Text) (fs : Fields Json) :
    access name (obj fs) = .ok (Fields.get? name fs) := rfl

@[simp] theorem parts_arr (items : List Json) : parts (arr items) = .ok items := rfl

end StorageGateway.Json
