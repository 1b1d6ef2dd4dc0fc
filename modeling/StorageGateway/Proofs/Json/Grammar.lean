import StorageGateway.Json.Reader

/-! The grammar of JSON, as a relation between values and their texts. It says nothing of how a text
is read or chosen: a value has many texts, with gaps between the parts and with escapes in strings
wherever one likes. -/
namespace StorageGateway.Json

/-- What may stand between the parts of a text. -/
def IsGap (t : Text) : Prop := ∀ c ∈ t, c = 0x20 ∨ c = 0x09 ∨ c = 0x0A ∨ c = 0x0D

/-- The letters of the short escapes, and what they stand for. -/
def shortEscapes : List (CodePoint × CodePoint) :=
  [(0x22, 0x22), (0x5C, 0x5C), (0x2F, 0x2F), (0x62, 0x08), (0x66, 0x0C), (0x6E, 0x0A),
    (0x72, 0x0D), (0x74, 0x09)]

/-- The spellings of a code point in a string. Four digits name a number of sixteen bits; above
those a code point is named by two halves, which have no meaning alone. -/
inductive SpellsCodePoint : CodePoint → Text → Prop where
  | plain {c : CodePoint} (hc : 0x20 ≤ c.val) (hq : c ≠ CodePoint.quotation)
      (hb : c ≠ CodePoint.backslash) : SpellsCodePoint c [c]
  | short {letter c : CodePoint} (h : (letter, c) ∈ shortEscapes) :
      SpellsCodePoint c [CodePoint.backslash, letter]
  | unit {digits : Text} {n : Nat} (hd : digits.length = 4) (hn : Text.hexValue? digits = some n)
      (hs : n < 0xD800 ∨ 0xE000 ≤ n) :
      SpellsCodePoint (CodePoint.ofNat n) (CodePoint.backslash :: 0x75 :: digits)
  | pair {first second : Text} {m n : Nat} (hf : first.length = 4) (hs : second.length = 4)
      (hm : Text.hexValue? first = some m) (hn : Text.hexValue? second = some n)
      (high : 0xD800 ≤ m ∧ m < 0xDC00) (low : 0xDC00 ≤ n ∧ n < 0xE000) :
      SpellsCodePoint (CodePoint.ofNat (0x10000 + (m - 0xD800) * 0x400 + (n - 0xDC00)))
        (CodePoint.backslash :: 0x75 :: (first ++ CodePoint.backslash :: 0x75 :: second))

/-- The spellings of a string between its marks. -/
inductive SpellsText : Text → Text → Prop where
  | nil : SpellsText [] []
  | cons {c : CodePoint} {s t u : Text} (hc : SpellsCodePoint c t) (hs : SpellsText s u) :
      SpellsText (c :: s) (t ++ u)

/-- What the rules of the grammar are about. The items of a list and the fields of an object are
spelled to the bracket that closes them. -/
inductive Phrase where
  | value (v : Json)
  | items (l : List Json)
  | fields (l : List (Text × Json))

inductive Spells : Phrase → Text → Prop where
  | null : Spells (.value .null) "null"
  | bool (b : Bool) :
      Spells (.value (.bool b)) (if b then Text.ofString "true" else Text.ofString "false")
  | natural (n : Nat) : Spells (.value (.int n)) (Decimal.natural n)
  | negative (n : Nat) : Spells (.value (.int (-n))) (CodePoint.hyphen :: Decimal.natural n)
  | str {s t : Text} (h : SpellsText s t) :
      Spells (.value (.str s)) (CodePoint.quotation :: (t ++ [CodePoint.quotation]))
  | noItems {gap : Text} (hg : IsGap gap) :
      Spells (.value (.arr [])) (CodePoint.openBracket :: (gap ++ [CodePoint.closeBracket]))
  | arr {l : List Json} {gap t : Text} (hg : IsGap gap) (h : Spells (.items l) t) :
      Spells (.value (.arr l)) (CodePoint.openBracket :: (gap ++ t))
  | lastItem {v : Json} {gap t : Text} (h : Spells (.value v) t) (hg : IsGap gap) :
      Spells (.items [v]) (t ++ gap ++ [CodePoint.closeBracket])
  | item {v : Json} {l : List Json} {gap after t u : Text} (h : Spells (.value v) t)
      (hg : IsGap gap) (ha : IsGap after) (hl : Spells (.items l) u) :
      Spells (.items (v :: l)) (t ++ gap ++ CodePoint.comma :: (after ++ u))
  | noFields {gap : Text} (hg : IsGap gap) :
      Spells (.value (.obj [])) (CodePoint.openBrace :: (gap ++ [CodePoint.closeBrace]))
  | obj {l : List (Text × Json)} {gap t : Text} (hg : IsGap gap) (h : Spells (.fields l) t) :
      Spells (.value (.obj l)) (CodePoint.openBrace :: (gap ++ t))
  | lastField {name s : Text} {v : Json} {gap before after t : Text} (hn : SpellsText name s)
      (hg : IsGap gap) (hb : IsGap before) (h : Spells (.value v) t) (ha : IsGap after) :
      Spells (.fields [(name, v)])
        (CodePoint.quotation :: (s ++ CodePoint.quotation :: (gap ++ CodePoint.colon :: (before ++
          (t ++ after ++ [CodePoint.closeBrace])))))
  | field {name s : Text} {v : Json} {l : List (Text × Json)} {gap before after next t u : Text}
      (hn : SpellsText name s) (hg : IsGap gap) (hb : IsGap before) (h : Spells (.value v) t)
      (ha : IsGap after) (hx : IsGap next) (hl : Spells (.fields l) u) :
      Spells (.fields ((name, v) :: l))
        (CodePoint.quotation :: (s ++ CodePoint.quotation :: (gap ++ CodePoint.colon :: (before ++
          (t ++ after ++ CodePoint.comma :: (next ++ u))))))

/-- A text of a value: a spelling of it, with gaps around. -/
def IsTextOf (v : Json) (t : Text) : Prop :=
  ∃ before u after, IsGap before ∧ Spells (.value v) u ∧ IsGap after ∧ t = before ++ (u ++ after)

/-- A string without halves of code points. -/
def IsScalar (t : Text) : Prop := ∀ c ∈ t, c.isSurrogate = false

/-- Values that have texts which say all of them: without numbers that have a point or an exponent,
with integers of no more digits than are read, and with each name once in an object. -/
inductive Portable : Json → Prop where
  | null : Portable .null
  | bool (b : Bool) : Portable (.bool b)
  | int (i : Int) (h : (Decimal.natural i.natAbs).length ≤ 4300) : Portable (.int i)
  | str (t : Text) (h : IsScalar t) : Portable (.str t)
  | arr (l : List Json) (h : ∀ v ∈ l, Portable v) : Portable (.arr l)
  | obj (l : Fields Json) (hn : l.names.Nodup) (hs : ∀ f ∈ l, IsScalar f.1)
      (h : ∀ f ∈ l, Portable f.2) : Portable (.obj l)

/-- The values in a phrase are portable. -/
def Phrase.Portable : Phrase → Prop
  | value v => Json.Portable v
  | items l => ∀ v ∈ l, Json.Portable v
  | fields l => ∀ f ∈ l, Json.Portable f.2

theorem Portable.of_arr {l : List Json} (h : Portable (.arr l)) : ∀ v ∈ l, Portable v := by
  cases h with
  | arr _ h => exact h

theorem Portable.of_obj {l : Fields Json} (h : Portable (.obj l)) :
    l.names.Nodup ∧ ∀ f ∈ l, Portable f.2 := by
  cases h with
  | obj _ hn _ h => exact ⟨hn, h⟩

theorem Portable.of_natural {n : Nat} (h : Portable (.int n)) :
    (Decimal.natural n).length ≤ mostDigits := by
  cases h with
  | int _ h => simpa [mostDigits] using h

theorem Portable.of_negative {n : Nat} (h : Portable (.int (-n))) :
    (Decimal.natural n).length ≤ mostDigits := by
  cases h with
  | int _ h => simpa [mostDigits] using h

end StorageGateway.Json
