import StorageGateway.Json.Basic
import StorageGateway.Json.Complaint
import StorageGateway.Text.Hexadecimal

/-! Reading JSON text. A reader takes a text and returns what it read with the rest; it stops at the
first fault and tells how much of the text was left there. -/
namespace StorageGateway.Json

/-- A fault, with the number of code points from it to the end of the text. -/
inductive Stop where
  | at (complaint : Complaint) (left : Nat)
  | integerTooLong (digits : Nat)

abbrev Reader (α : Type) := Text → Except Stop (α × Text)

def isGap (c : CodePoint) : Bool := c.val == 0x20 || c.val == 0x09 || c.val == 0x0A || c.val == 0x0D

def skipGap (t : Text) : Text := t.dropWhile isGap

/-- A code point of a JSON string, as it stands or by its four-digit escape. -/
inductive Piece where
  | plain (c : CodePoint)
  | escaped (unit : CodePoint)

/-- Two escaped halves next to each other make one code point; all else stands for itself. -/
def joinPieces : List Piece → Text
  | .escaped high :: .escaped low :: pieces =>
    if high.isHighSurrogate && low.isLowSurrogate then
      CodePoint.ofHalves high low :: joinPieces pieces
    else high :: joinPieces (.escaped low :: pieces)
  | .escaped unit :: pieces => unit :: joinPieces pieces
  | .plain c :: pieces => c :: joinPieces pieces
  | [] => []

/-- The meaning of a one-letter escape. -/
def shortEscape? (c : CodePoint) : Option CodePoint :=
  if c = CodePoint.quotation ∨ c = CodePoint.backslash ∨ c = CodePoint.slash then some c
  else if c = 0x62 then some 0x08
  else if c = 0x66 then some 0x0C
  else if c = 0x6E then some 0x0A
  else if c = 0x72 then some 0x0D
  else if c = 0x74 then some 0x09
  else none

def prepend (piece : Piece) (r : Except Stop (List Piece × Text)) :
    Except Stop (List Piece × Text) :=
  r.map fun (pieces, rest) => (piece :: pieces, rest)

/-- Reads the pieces of a string up to its closing mark; `opening` is what was left at the opening
one. -/
def readPieces (opening : Nat) : Text → Except Stop (List Piece × Text)
  | [] => .error (.at .unterminatedText opening)
  | c :: t =>
    if c = CodePoint.quotation then .ok ([], t)
    else if c = CodePoint.backslash then
      match t with
      | [] => .error (.at .unterminatedText opening)
      | kind :: t =>
        if kind = 0x75 then
          match t with
          | a :: b :: c :: d :: rest =>
            match Text.hexValue? [a, b, c, d] with
            | some unit =>
              if rest = [] then .error (.at .unitEscape 5)
              else prepend (.escaped (CodePoint.ofNat unit)) (readPieces opening rest)
            | none => .error (.at .unitEscape (rest.length + 5))
          | short => .error (.at .unitEscape (short.length + 1))
        else match shortEscape? kind with
          | some meaning => prepend (.plain meaning) (readPieces opening t)
          | none => .error (.at .unknownEscape (t.length + 2))
    else if c.val < 0x20 then .error (.at .controlCharacter (t.length + 1))
    else prepend (.plain c) (readPieces opening t)

/-- Reads a string after its opening mark. -/
def readText : Reader Text := fun t =>
  (readPieces (t.length + 1) t).map fun (pieces, rest) => (joinPieces pieces, rest)

/-- The digits of the whole part: a zero alone, or a run that starts with no zero. -/
def takeWhole : Text → Text × Text
  | c :: t =>
    if c = 0x30 then ([c], t)
    else ((c :: t).takeWhile CodePoint.isAsciiDigit, (c :: t).dropWhile CodePoint.isAsciiDigit)
  | [] => ([], [])

/-- The digits after a point, if at least one stands there. -/
def takePlaces (t : Text) : Text × Text :=
  match t with
  | c :: r =>
    let places := r.takeWhile CodePoint.isAsciiDigit
    if c = CodePoint.dot ∧ places ≠ [] then (places, r.dropWhile CodePoint.isAsciiDigit)
    else ([], t)
  | [] => ([], [])

/-- The exponent, if its mark, an optional sign and at least one digit stand there. -/
def takeExponent (t : Text) : Option Int × Text :=
  match t with
  | c :: r =>
    if c = 0x65 ∨ c = 0x45 then
      let (negative, r) := match r with
        | s :: r' => if s = 0x2D then (true, r') else if s = 0x2B then (false, r') else (false, r)
        | [] => (false, [])
      let digits := r.takeWhile CodePoint.isAsciiDigit
      let n : Int := Text.digitsValue digits
      if digits = [] then (none, t)
      else (some (if negative then -n else n), r.dropWhile CodePoint.isAsciiDigit)
    else (none, t)
  | [] => (none, [])

/-- Reads a number after its sign. `start` is what was left at the sign. -/
def readUnsigned (negative : Bool) (start : Nat) : Reader Json := fun t =>
  let (whole, rest) := takeWhole t
  if whole = [] then .error (.at .value start)
  else
    let (places, rest) := takePlaces rest
    let (exponent, rest) := takeExponent rest
    if places = [] ∧ exponent = none then
      if mostDigits < whole.length then .error (.integerTooLong whole.length)
      else
        let n : Int := Text.digitsValue whole
        .ok (.int (if negative then -n else n), rest)
    else
      .ok (.float (Binary64.ofDecimal negative (Text.digitsValue (whole ++ places))
        (exponent.getD 0 - places.length)), rest)

/-- The values that are written as a word. -/
def wordValues : List (Text × Json) :=
  [("null", null), ("true", bool true), ("false", bool false), ("NaN", float .nan),
    ("Infinity", float (.infinite false)), ("-Infinity", float (.infinite true))]

/-- The word that the text starts with, and the rest. -/
def takeWord (t : Text) : Option (Json × Text) :=
  wordValues.findSome? fun (word, v) => (word.isPrefixOf? t).map fun rest => (v, rest)

/-- Reads a value that holds no others. -/
def readLeaf : Reader Json := fun t =>
  match takeWord t with
  | some r => .ok r
  | none =>
    match t with
    | c :: r =>
      if c = CodePoint.quotation then (readText r).map fun (s, rest) => (str s, rest)
      else if c = CodePoint.hyphen then readUnsigned true t.length r
      else readUnsigned false t.length t
    | [] => .error (.at .value 0)

mutual

/-- Reads a value. The fuel bounds the depth of calls; twice the length of the text is enough. -/
def readValue : Nat → Reader Json
  | 0, t => .error (.at .value t.length)
  | fuel + 1, t =>
    match t with
    | c :: r =>
      if c = CodePoint.openBracket then
        let r := skipGap r
        match r with
        | e :: rest =>
          if e = CodePoint.closeBracket then .ok (arr [], rest)
          else (readItems fuel r).map fun (items, rest) => (arr items, rest)
        | [] => .error (.at .value 0)
      else if c = CodePoint.openBrace then
        let r := skipGap r
        match r with
        | e :: rest =>
          if e = CodePoint.closeBrace then .ok (obj [], rest)
          else (readFields fuel r).map fun (fields, rest) => (obj (Fields.ofPairs fields), rest)
        | [] => .error (.at .propertyName 0)
      else readLeaf t
    | [] => .error (.at .value 0)

/-- Reads the items of an array from the first one to the closing bracket. -/
def readItems : Nat → Reader (List Json)
  | 0, t => .error (.at .value t.length)
  | fuel + 1, t => do
    let (item, rest) ← readValue fuel t
    match skipGap rest with
    | e :: rest =>
      if e = CodePoint.closeBracket then .ok ([item], rest)
      else if e = CodePoint.comma then
        (readItems fuel (skipGap rest)).map fun (items, rest) => (item :: items, rest)
      else .error (.at .itemSeparator (rest.length + 1))
    | [] => .error (.at .itemSeparator 0)

/-- Reads the fields of an object from the first name to the closing brace. -/
def readFields : Nat → Reader (List (Text × Json))
  | 0, t => .error (.at .propertyName t.length)
  | fuel + 1, t =>
    match t with
    | c :: r =>
      if c = CodePoint.quotation then do
        let (name, rest) ← readText r
        match skipGap rest with
        | s :: rest =>
          if s = CodePoint.colon then do
            let (value, rest) ← readValue fuel (skipGap rest)
            match skipGap rest with
            | e :: rest =>
              if e = CodePoint.closeBrace then .ok ([(name, value)], rest)
              else if e = CodePoint.comma then
                (readFields fuel (skipGap rest)).map fun (fields, rest) =>
                  ((name, value) :: fields, rest)
              else .error (.at .itemSeparator (rest.length + 1))
            | [] => .error (.at .itemSeparator 0)
          else .error (.at .nameSeparator (rest.length + 1))
        | [] => .error (.at .nameSeparator 0)
      else .error (.at .propertyName t.length)
    | [] => .error (.at .propertyName 0)

end

/-- Reads a value with blanks around it and nothing else. -/
def readWhole (t : Text) : Except Stop Json := do
  let (v, rest) ← readValue (2 * t.length + 2) (skipGap t)
  let rest := skipGap rest
  if rest = [] then .ok v else .error (.at .extraData rest.length)

/-- The place of a fault in the whole text. -/
def Stop.inText (t : Text) : Stop → ReadError
  | .at complaint left => .malformed complaint (Place.after (t.take (t.length - left)))
  | .integerTooLong digits => .integerTooLong digits

/-- Reads a decoded text, which may start with no byte order mark. -/
def read (t : Text) : Except ReadError Json :=
  match t with
  | c :: _ =>
    if c = 0xFEFF then .error (.malformed .byteOrderMark (Place.after []))
    else (readWhole t).mapError (Stop.inText t)
  | [] => (readWhole t).mapError (Stop.inText t)

end StorageGateway.Json
