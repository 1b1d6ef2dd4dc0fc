import StorageGateway.Json.Basic
import StorageGateway.Json.Number
import StorageGateway.Text.Quoted

/-! A value as running text: a text shows itself, and inside lists and objects texts stand in
quotes. -/
namespace StorageGateway.Json

def displayBool (b : Bool) : Text := if b then "True" else "False"

mutual

/-- The text of a value where texts stand in quotes. -/
def inspect : Json → Text
  | null => "None"
  | bool b => displayBool b
  | int i => Decimal.integer i
  | float x => numberText plainWords x
  | str t => t.quoted
  | arr items => [CodePoint.openBracket] ++ inspectItems items ++ [CodePoint.closeBracket]
  | obj fields => [CodePoint.openBrace] ++ inspectFields fields ++ [CodePoint.closeBrace]

def inspectItems : List Json → Text
  | [] => []
  | [item] => inspect item
  | item :: items => inspect item ++ ", " ++ inspectItems items

def inspectFields : List (Text × Json) → Text
  | [] => []
  | [(name, value)] => name.quoted ++ ": " ++ inspect value
  | (name, value) :: fields =>
    name.quoted ++ ": " ++ inspect value ++ ", " ++ inspectFields fields

end

def display : Json → Text
  | str t => t
  | v => inspect v

@[simp] theorem display_str (t : Text) : display (str t) = t := rfl

example : display (arr [int 1, str ("a" : String), null]) = Text.ofString "[1, 'a', None]" := by
  decide +kernel

end StorageGateway.Json
