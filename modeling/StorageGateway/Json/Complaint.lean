import StorageGateway.Decimal.Integer

/-! Why a text is not JSON: what was missing or wrong, and where. -/
namespace StorageGateway.Json

inductive Complaint where
  | value
  | propertyName
  | nameSeparator
  | itemSeparator
  | extraData
  | unterminatedText
  | controlCharacter
  | unknownEscape
  | unitEscape
  | byteOrderMark
  deriving DecidableEq

def Complaint.message : Complaint → Text
  | value => "Expecting value"
  | propertyName => "Expecting property name enclosed in double quotes"
  | nameSeparator => "Expecting ':' delimiter"
  | itemSeparator => "Expecting ',' delimiter"
  | extraData => "Extra data"
  | unterminatedText => "Unterminated string starting at"
  | controlCharacter => "Invalid control character at"
  | unknownEscape => "Invalid \\escape"
  | unitEscape => "Invalid \\uXXXX escape"
  | byteOrderMark => "Unexpected UTF-8 BOM (decode using utf-8-sig)"

/-- A place in a text: line and column count from one, the offset from zero. -/
structure Place where
  line : Nat
  column : Nat
  offset : Nat
  deriving DecidableEq

/-- The place just after `before`. -/
def Place.after (before : Text) : Place where
  line := before.count CodePoint.newline + 1
  column := (before.reverse.takeWhile (· ≠ CodePoint.newline)).length + 1
  offset := before.length

/-- An integer may have this many digits. -/
def mostDigits : Nat := 4300

inductive ReadError where
  | malformed (complaint : Complaint) (place : Place)
  | integerTooLong (digits : Nat)
  deriving DecidableEq

/-- The text about an integer with too many digits. -/
def tooLongMessage (digits : Nat) : Text :=
  "Exceeds the limit (4300 digits) for integer string conversion: value has " ++
    Decimal.natural digits ++ " digits; use sys.set_int_max_str_digits() to increase the limit"

def ReadError.message : ReadError → Text
  | malformed complaint place =>
    complaint.message ++ ": line " ++ Decimal.natural place.line ++ " column " ++
      Decimal.natural place.column ++ " (char " ++ Decimal.natural place.offset ++ ")"
  | integerTooLong digits => tooLongMessage digits

end StorageGateway.Json
