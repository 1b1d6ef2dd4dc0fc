import StorageGateway.Listing.Size
import StorageGateway.Text.Case

/-! Which fields of a listed thing are shown, under which headers. -/
namespace StorageGateway.Listing

/-- A listed thing: its fields. -/
abbrev Row := Fields Json

inductive Alignment where
  | left
  | right
  deriving DecidableEq

inductive Format where
  | plain
  | size

def Format.text : Format → Json → Except Fault Text
  | plain, v => .ok v.display
  | size, v => Size.text v

structure Column where
  header : Text
  field : Text
  format : Format := .plain
  alignment : Alignment := .left

/-- The cell of a row: empty when the field is missing or null. -/
def Column.render (c : Column) (row : Row) : Except Fault Text :=
  match row.get? c.field with
  | none | some .null => .ok []
  | some v => c.format.text v

structure View where
  title : Text
  columns : List Column

namespace View

def systems : View where
  title := "Systems"
  columns := [
    { header := "Name", field := "name" },
    { header := "ID", field := "id" },
    { header := "Version", field := "systemVersionName" },
    { header := "MDM Cluster", field := "mdmClusterState" }]

def volumes : View where
  title := "Volumes"
  columns := [
    { header := "Name", field := "name" },
    { header := "ID", field := "id" },
    { header := "Pool ID", field := "storagePoolId" },
    { header := "Size (GiB)", field := "sizeInKb", format := .size, alignment := .right },
    { header := "Type", field := "volumeType" }]

def named? (name : Text) : Option View :=
  if name = Text.ofString "systems.list" then some systems
  else if name = Text.ofString "volumes.list" then some volumes
  else none

end View

/-- The first field of a row, among some, that counts as something. -/
def firstTruthy (names : List Text) (row : Row) : Option Json :=
  names.findSome? fun name => (row.get? name).filter Json.isTruthy

/-- Rows are sorted by the small letters of their name, or of their identifier if they have none. -/
def sortKey (row : Row) : Text :=
  ((firstTruthy ["name", "id"] row).map Json.display).getD [] |>.lower

end StorageGateway.Listing
