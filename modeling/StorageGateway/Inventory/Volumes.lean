import StorageGateway.Inventory.Collection
import StorageGateway.Inventory.Draft

/-! What can be done with volumes. -/
namespace StorageGateway.Volumes

def instancePath (id : Text) : Text := "/api/instances/Volume::" ++ id

def idQueryPath : Text := "/api/types/Volume/instances/action/queryIdByKey"

/-- The identifier of the volume with a name. -/
def findId (w : Wire) (name : Text) : Call Text :=
  Dispatch.executeScalar w (Collection.postOrder idQueryPath (.obj [("name", .str name)]))

def create (w : Wire) (draft : Json) : Call Json := do
  let fields ← Call.ofExcept (Draft.ofJson draft)
  Dispatch.execute w (Collection.postOrder Collection.volumes.instances fields)

/-- What happens to the snapshots of a removed volume when the caller does not say: nothing. -/
def defaultMode : Text := "ONLY_ME"

def removal (mode : Option Text) : Json :=
  .obj [("removeMode", .str ((mode.filter (· ≠ [])).getD defaultMode))]

def remove (w : Wire) (resource : Json) (mode : Option Text) : Call Json :=
  Collection.act w "removeVolume" (removal mode) resource

def resizing (size : Json) : Json := .obj [("sizeInGB", .str size.display)]

def setSize (w : Wire) (resource size : Json) : Call Json :=
  Collection.act w "setVolumeSize" (resizing size) resource

end StorageGateway.Volumes
