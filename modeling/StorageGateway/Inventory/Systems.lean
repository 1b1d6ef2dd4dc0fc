import StorageGateway.Inventory.Collection

/-! Finding a system by its identifier or by its name. -/
namespace StorageGateway.Systems

def notFound : Failure where
  kind := .resolution
  message := "systemid or systemname not found"

/-- Whether a field of a system is the wanted text. Nothing is looked up for an empty one. -/
def answersTo (name : Text) (wanted : Option Text) (system : Json) : Except Fault Bool :=
  match wanted with
  | none | some [] => .ok false
  | some t => (system.access name).map fun value => value.bind Json.text? == some t

def isWanted (id name : Option Text) (system : Json) : Except Fault Bool := do
  if ← answersTo "id" id system then return true
  else answersTo "name" name system

/-- The first system that is wanted. -/
def firstWanted (id name : Option Text) : List Json → Except Fault Json
  | [] => .error (.ofFailure notFound)
  | system :: systems => do
    if ← isWanted id name system then return system
    else firstWanted id name systems

def find (w : Wire) (id name : Option Text) : Call Json := do
  let systems ← Collection.list w .systems
  Call.ofExcept (systems.parts >>= firstWanted id name)

end StorageGateway.Systems
