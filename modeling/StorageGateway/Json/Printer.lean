import StorageGateway.Json.Basic
import StorageGateway.Json.Number
import StorageGateway.Text.Hexadecimal

/-! JSON text in pure ASCII, on one line or indented by two blanks a level. -/
namespace StorageGateway.Json

/-- The high and the low half that stand for a code point above U+FFFF. -/
def surrogatePair (n : Nat) : Nat × Nat :=
  (0xD800 + (n - 0x10000) / 0x400, 0xDC00 + (n - 0x10000) % 0x400)

def unitEscape (n : Nat) : Text := "\\u" ++ Text.hexadecimal 4 n

def printCodePoint (c : CodePoint) : Text :=
  if c = CodePoint.quotation then "\\\""
  else if c = CodePoint.backslash then "\\\\"
  else if 0x20 ≤ c.val ∧ c.val ≤ 0x7E then [c]
  else if c = 0x0A then "\\n"
  else if c = 0x0D then "\\r"
  else if c = 0x09 then "\\t"
  else if c = 0x0C then "\\f"
  else if c = 0x08 then "\\b"
  else if c.val < 0x10000 then unitEscape c.val
  else unitEscape (surrogatePair c.val).1 ++ unitEscape (surrogatePair c.val).2

def printText (t : Text) : Text :=
  [CodePoint.quotation] ++ t.flatMap printCodePoint ++ [CodePoint.quotation]

def printBool (b : Bool) : Text := if b then "true" else "false"

/-- What the two layouts share: the text of a value that holds no others. -/
def printLeaf : Json → Text
  | null => "null"
  | bool b => printBool b
  | int i => Decimal.integer i
  | float x => numberText jsonWords x
  | str t => printText t
  | arr _ => "[]"
  | obj _ => "\x7b\x7d"

def itemSeparator : Text := ", "

def nameSeparator : Text := ": "

mutual

/-- The text of a value on one line. -/
def print : Json → Text
  | arr items => [CodePoint.openBracket] ++ printItems items ++ [CodePoint.closeBracket]
  | obj fields => [CodePoint.openBrace] ++ printFields fields ++ [CodePoint.closeBrace]
  | leaf => printLeaf leaf

def printItems : List Json → Text
  | [] => []
  | [item] => print item
  | item :: items => print item ++ itemSeparator ++ printItems items

def printFields : List (Text × Json) → Text
  | [] => []
  | [(name, value)] => printText name ++ nameSeparator ++ print value
  | (name, value) :: fields =>
    printText name ++ nameSeparator ++ print value ++ itemSeparator ++ printFields fields

end

/-- A new line at an indentation level. -/
def newLine (level : Nat) : Text :=
  CodePoint.newline :: List.replicate (2 * level) CodePoint.space

mutual

/-- The text of a value at an indentation level; what is empty stays on its line. -/
def layOut (level : Nat) : Json → Text
  | arr (item :: items) =>
    [CodePoint.openBracket] ++ layOutItems (level + 1) (item :: items) ++ newLine level ++
      [CodePoint.closeBracket]
  | obj (field :: fields) =>
    [CodePoint.openBrace] ++ layOutFields (level + 1) (field :: fields) ++ newLine level ++
      [CodePoint.closeBrace]
  | leaf => printLeaf leaf

def layOutItems (level : Nat) : List Json → Text
  | [] => []
  | [item] => newLine level ++ layOut level item
  | item :: items =>
    newLine level ++ layOut level item ++ [CodePoint.comma] ++ layOutItems level items

def layOutFields (level : Nat) : List (Text × Json) → Text
  | [] => []
  | [(name, value)] => newLine level ++ printText name ++ nameSeparator ++ layOut level value
  | (name, value) :: fields =>
    newLine level ++ printText name ++ nameSeparator ++ layOut level value ++ [CodePoint.comma] ++
      layOutFields level fields

end

/-- The indented text of a whole value. -/
def indented (v : Json) : Text := layOut 0 v

example :
    print (arr [int 1, obj [([0xE9], null)]]) = Text.ofString "[1, \x7b\"\\u00e9\": null\x7d]" := by
  decide +kernel
example : indented (arr [int 1, arr []]) = Text.ofString "[\n  1,\n  []\n]" := by decide +kernel

end StorageGateway.Json
