import StorageGateway.Json.Printer
import StorageGateway.Text.Styling
import StorageGateway.Proofs.Json.Grammar

/-! What is written of a value, on one line and laid out: the whole of it, with nothing left out and
nothing moved, in printable ASCII apart from the ends of lines. Where the grammar has texts for the
value, it is one of them. -/
namespace StorageGateway

/-! Code points and strings. -/

theorem CodePoint.hexValue?_ofHexValue (d : Nat) : (ofHexValue d).hexValue? = some (d % 16) := by
  have key : ∀ k : Fin 16, (ofHexValue k.val).hexValue? = some k.val := by decide
  have h := key ⟨d % 16, Nat.mod_lt d (by decide)⟩
  simpa [ofHexValue] using h

/-- Reading back the last digits of a number. -/
theorem Text.hexValue?_hexadecimal (width n : Nat) :
    hexValue? (hexadecimal width n) = some (n % Nat.pow 16 width) := by
  induction width generalizing n with
  | zero => simp [hexadecimal, hexValue?, Nat.mod_one]
  | succ width ih =>
    have hsplit : n % Nat.pow 16 (width + 1) = n % 16 + 16 * (n / 16 % Nat.pow 16 width) := by
      rw [Nat.pow_eq, Nat.pow_eq, Nat.pow_succ', Nat.mod_mul]
    unfold hexValue? at ih ⊢
    rw [hexadecimal, List.foldlM_append, ih, hsplit]
    simp [CodePoint.hexValue?_ofHexValue, Nat.add_comm]

namespace Json

/-- The escape of a number of sixteen bits names it. -/
theorem hexValue?_of_lt {n : Nat} (h : n < 0x10000) :
    Text.hexValue? (Text.hexadecimal 4 n) = some n := by
  rw [Text.hexValue?_hexadecimal, Nat.mod_eq_of_lt h]

theorem spells_unitEscape {c : CodePoint} (h : c.isSurrogate = false) (hc : c.val < 0x10000) :
    SpellsCodePoint c (unitEscape c.val) := by
  have hs : c.val < 0xD800 ∨ 0xE000 ≤ c.val := by
    simp [CodePoint.isSurrogate] at h
    omega
  have hunit := SpellsCodePoint.unit (Text.length_hexadecimal 4 c.val) (hexValue?_of_lt hc) hs
  rwa [CodePoint.ofNat, dif_pos c.isLt] at hunit

theorem spells_surrogatePair {c : CodePoint} (hc : 0x10000 ≤ c.val) :
    SpellsCodePoint c
      (unitEscape (surrogatePair c.val).1 ++ unitEscape (surrogatePair c.val).2) := by
  have hlt : c.val < 0x110000 := c.isLt
  have hfirst : 0xD800 ≤ (surrogatePair c.val).1 ∧ (surrogatePair c.val).1 < 0xDC00 := by
    simp only [surrogatePair]
    omega
  have hsecond : 0xDC00 ≤ (surrogatePair c.val).2 ∧ (surrogatePair c.val).2 < 0xE000 := by
    simp only [surrogatePair]
    omega
  have hpair := SpellsCodePoint.pair (Text.length_hexadecimal 4 _) (Text.length_hexadecimal 4 _)
    (hexValue?_of_lt (n := (surrogatePair c.val).1) (by omega))
    (hexValue?_of_lt (n := (surrogatePair c.val).2) (by omega)) hfirst hsecond
  have hval : 0x10000 + ((surrogatePair c.val).1 - 0xD800) * 0x400 +
      ((surrogatePair c.val).2 - 0xDC00) = c.val := by
    simp only [surrogatePair]
    omega
  rwa [hval, CodePoint.ofNat, dif_pos hlt] at hpair

theorem spells_printCodePoint {c : CodePoint} (h : c.isSurrogate = false) :
    SpellsCodePoint c (printCodePoint c) := by
  fun_cases printCodePoint c with
  | case1 hc => exact hc ▸ .short (by decide : (0x22, 0x22) ∈ shortEscapes)
  | case2 _ hc => exact hc ▸ .short (by decide : (0x5C, 0x5C) ∈ shortEscapes)
  | case3 hq hb hplain => exact .plain hplain.1 hq hb
  | case4 _ _ _ hc => exact hc ▸ .short (by decide : (0x6E, 0x0A) ∈ shortEscapes)
  | case5 _ _ _ _ hc => exact hc ▸ .short (by decide : (0x72, 0x0D) ∈ shortEscapes)
  | case6 _ _ _ _ _ hc => exact hc ▸ .short (by decide : (0x74, 0x09) ∈ shortEscapes)
  | case7 _ _ _ _ _ _ hc => exact hc ▸ .short (by decide : (0x66, 0x0C) ∈ shortEscapes)
  | case8 _ _ _ _ _ _ _ hc => exact hc ▸ .short (by decide : (0x62, 0x08) ∈ shortEscapes)
  | case9 => exact spells_unitEscape h ‹_›
  | case10 => exact spells_surrogatePair (by omega)

theorem spells_printText {t : Text} (h : IsScalar t) :
    SpellsText t (t.flatMap printCodePoint) := by
  induction t with
  | nil => exact .nil
  | cons c t ih =>
    rw [List.flatMap_cons]
    exact .cons (spells_printCodePoint (h c List.mem_cons_self))
      (ih fun d hd => h d (List.mem_cons_of_mem c hd))

/-! Lists and objects. Both layouts put the texts of the parts one after the other, with a comma and
a gap between them. -/

theorem printItems_eq (l : List Json) :
    printItems l = Text.joinWith itemSeparator (l.map print) := by
  induction l with
  | nil => rfl
  | cons item l ih =>
    cases l with
    | nil => rfl
    | cons next l => rw [printItems.eq_3 _ _ (by simp), ih]; rfl

/-- The text of a field whose value is written by `text`. -/
def fieldText (text : Json → Text) (field : Text × Json) : Text :=
  printText field.1 ++ nameSeparator ++ text field.2

theorem printFields_eq (l : List (Text × Json)) :
    printFields l = Text.joinWith itemSeparator (l.map (fieldText print)) := by
  induction l with
  | nil => rfl
  | cons field l ih =>
    cases l with
    | nil => rfl
    | cons next l => rw [printFields.eq_3 _ _ _ (by simp), ih]; rfl

def layOutSeparator (level : Nat) : Text := CodePoint.comma :: newLine level

theorem layOutItems_eq (level : Nat) {l : List Json} (h : l ≠ []) :
    layOutItems level l =
      newLine level ++ Text.joinWith (layOutSeparator level) (l.map (layOut level)) := by
  induction l with
  | nil => exact absurd rfl h
  | cons item l ih =>
    cases l with
    | nil => rfl
    | cons next l =>
      rw [layOutItems.eq_3 _ _ _ (by simp), ih (by simp)]
      simp [Text.joinWith, layOutSeparator]

theorem layOutFields_eq (level : Nat) {l : List (Text × Json)} (h : l ≠ []) :
    layOutFields level l =
      newLine level ++
        Text.joinWith (layOutSeparator level) (l.map (fieldText (layOut level))) := by
  induction l with
  | nil => exact absurd rfl h
  | cons field l ih =>
    cases l with
    | nil => simp [layOutFields, fieldText, Text.joinWith]
    | cons next l =>
      rw [layOutFields.eq_3 _ _ _ _ (by simp), ih (by simp)]
      simp [Text.joinWith, layOutSeparator, fieldText]

theorem isGap_nil : IsGap [] := by
  intro c hc
  cases hc

theorem isGap_space : IsGap [CodePoint.space] := by
  intro c hc
  exact .inl (List.mem_singleton.mp hc)

theorem isGap_newLine (level : Nat) : IsGap (newLine level) := by
  intro c hc
  rcases List.mem_cons.mp hc with rfl | hc
  · decide
  · rw [List.eq_of_mem_replicate hc]
    decide

/-! Values. -/

/-- A value that holds no others. -/
def IsLeaf : Json → Prop
  | arr l => l = []
  | obj l => l = []
  | _ => True

/-- What holds of the values that hold no others, and of a list or an object once it holds of those
inside, holds of every value. -/
@[elab_as_elim]
theorem recurse {p : Json → Prop} (leaf : ∀ v, IsLeaf v → p v)
    (arr : ∀ l, l ≠ [] → (∀ v ∈ l, p v) → p (.arr l))
    (obj : ∀ l, l ≠ [] → (∀ field ∈ l, p field.2) → p (.obj l)) (v : Json) : p v := by
  refine @Json.rec p (fun l => ∀ v ∈ l, p v) (fun l => ∀ field ∈ l, p field.2)
    (fun field => p field.2) (leaf _ trivial) (fun _ => leaf _ trivial) (fun _ => leaf _ trivial)
    (fun _ => leaf _ trivial) (fun _ => leaf _ trivial) (fun l ih => ?_) (fun l ih => ?_)
    (List.forall_mem_nil _)
    (fun _ _ hv hl => List.forall_mem_cons.mpr ⟨hv, hl⟩) (List.forall_mem_nil _)
    (fun _ _ hv hl => List.forall_mem_cons.mpr ⟨hv, hl⟩) (fun _ _ hv => hv) v
  · by_cases hl : l = []
    · exact leaf _ hl
    · exact arr l hl ih
  · by_cases hl : l = []
    · exact leaf _ hl
    · exact obj l hl ih

/-- The texts that have the whole of a value in them: the items of a list and the fields of an object
one after the other, each one written in full, with gaps in between. -/
inductive Writes : Phrase → Text → Prop where
  | leaf {v : Json} (h : IsLeaf v) : Writes (.value v) (printLeaf v)
  | arr {l : List Json} {gap t : Text} (hg : IsGap gap) (h : Writes (.items l) t) :
      Writes (.value (.arr l)) (CodePoint.openBracket :: (gap ++ t))
  | lastItem {v : Json} {gap t : Text} (h : Writes (.value v) t) (hg : IsGap gap) :
      Writes (.items [v]) (t ++ gap ++ [CodePoint.closeBracket])
  | item {v : Json} {l : List Json} {gap after t u : Text} (h : Writes (.value v) t)
      (hg : IsGap gap) (ha : IsGap after) (hl : Writes (.items l) u) :
      Writes (.items (v :: l)) (t ++ gap ++ CodePoint.comma :: (after ++ u))
  | obj {l : List (Text × Json)} {gap t : Text} (hg : IsGap gap) (h : Writes (.fields l) t) :
      Writes (.value (.obj l)) (CodePoint.openBrace :: (gap ++ t))
  | lastField (name : Text) {v : Json} {gap before after t : Text} (hg : IsGap gap)
      (hb : IsGap before) (h : Writes (.value v) t) (ha : IsGap after) :
      Writes (.fields [(name, v)])
        (printText name ++ (gap ++ CodePoint.colon :: (before ++
          (t ++ after ++ [CodePoint.closeBrace]))))
  | field (name : Text) {v : Json} {l : List (Text × Json)} {gap before after next t u : Text}
      (hg : IsGap gap) (hb : IsGap before) (h : Writes (.value v) t) (ha : IsGap after)
      (hx : IsGap next) (hl : Writes (.fields l) u) :
      Writes (.fields ((name, v) :: l))
        (printText name ++ (gap ++ CodePoint.colon :: (before ++
          (t ++ after ++ CodePoint.comma :: (next ++ u)))))

section Joining

variable {after gap : Text} (ha : IsGap after) (hg : IsGap gap)
include ha hg

theorem writes_items {text : Json → Text} {l : List Json} (hl : l ≠ [])
    (h : ∀ v ∈ l, Writes (.value v) (text v)) :
    Writes (.items l) (Text.joinWith (CodePoint.comma :: after) (l.map text) ++ gap ++
      [CodePoint.closeBracket]) := by
  induction l with
  | nil => exact absurd rfl hl
  | cons v l ih =>
    have hv := h v List.mem_cons_self
    cases l with
    | nil => exact .lastItem hv hg
    | cons next l =>
      have hrest := ih (by simp) fun w hw => h w (List.mem_cons_of_mem v hw)
      simpa [Text.joinWith] using Writes.item hv isGap_nil ha hrest

theorem writes_fields {text : Json → Text} {l : List (Text × Json)} (hl : l ≠ [])
    (h : ∀ field ∈ l, Writes (.value field.2) (text field.2)) :
    Writes (.fields l) (Text.joinWith (CodePoint.comma :: after) (l.map (fieldText text)) ++ gap ++
      [CodePoint.closeBrace]) := by
  have hseparator : nameSeparator = [CodePoint.colon, CodePoint.space] := rfl
  induction l with
  | nil => exact absurd rfl hl
  | cons field l ih =>
    obtain ⟨name, v⟩ := field
    have hv := h _ List.mem_cons_self
    cases l with
    | nil =>
      simpa [Text.joinWith, fieldText, hseparator] using
        Writes.lastField name isGap_nil isGap_space hv hg
    | cons next l =>
      have hrest := ih (by simp) fun f hf => h f (List.mem_cons_of_mem _ hf)
      simpa [Text.joinWith, fieldText, hseparator] using
        Writes.field name isGap_nil isGap_space hv isGap_nil ha hrest

end Joining

theorem print_of_isLeaf {v : Json} (h : IsLeaf v) : print v = printLeaf v := by
  cases v with
  | arr l => obtain rfl : l = [] := h; rfl
  | obj l => obtain rfl : l = [] := h; rfl
  | _ => simp [print]

theorem layOut_of_isLeaf {v : Json} (h : IsLeaf v) (level : Nat) :
    layOut level v = printLeaf v := by
  cases v with
  | arr l => obtain rfl : l = [] := h; simp [layOut]
  | obj l => obtain rfl : l = [] := h; simp [layOut]
  | _ => simp [layOut]

/-- What is written on one line has the whole value in it. -/
theorem writes_print (v : Json) : Writes (.value v) (print v) := by
  have hseparator : itemSeparator = [CodePoint.comma, CodePoint.space] := rfl
  induction v using recurse with
  | leaf v h =>
    rw [print_of_isLeaf h]
    exact .leaf h
  | arr l hl ih =>
    have hitems := writes_items isGap_space isGap_nil hl ih
    rw [print, printItems_eq]
    simpa [hseparator] using Writes.arr isGap_nil hitems
  | obj l hl ih =>
    have hfields := writes_fields isGap_space isGap_nil hl ih
    rw [print, printFields_eq]
    simpa [hseparator] using Writes.obj isGap_nil hfields

theorem layOut_arr {l : List Json} (hl : l ≠ []) (level : Nat) :
    layOut level (arr l) = CodePoint.openBracket :: (newLine (level + 1) ++
      (Text.joinWith (layOutSeparator (level + 1)) (l.map (layOut (level + 1))) ++ newLine level ++
        [CodePoint.closeBracket])) := by
  obtain ⟨v, l, rfl⟩ := List.exists_cons_of_ne_nil hl
  simp [layOut, layOutItems_eq]

theorem layOut_obj {l : List (Text × Json)} (hl : l ≠ []) (level : Nat) :
    layOut level (obj l) = CodePoint.openBrace :: (newLine (level + 1) ++
      (Text.joinWith (layOutSeparator (level + 1)) (l.map (fieldText (layOut (level + 1)))) ++
        newLine level ++ [CodePoint.closeBrace])) := by
  obtain ⟨field, l, rfl⟩ := List.exists_cons_of_ne_nil hl
  simp [layOut, layOutFields_eq]

/-- What is laid out has the whole value in it, at any level. -/
theorem writes_layOut (v : Json) (level : Nat) : Writes (.value v) (layOut level v) := by
  -- the gap before the first part belongs to the bracket in front, the other gaps to the commas
  induction v using recurse generalizing level with
  | leaf v h =>
    rw [layOut_of_isLeaf h]
    exact .leaf h
  | arr l hl ih =>
    rw [layOut_arr hl]
    exact .arr (isGap_newLine (level + 1)) (writes_items (isGap_newLine (level + 1))
      (isGap_newLine level) hl fun v hv => ih v hv (level + 1))
  | obj l hl ih =>
    rw [layOut_obj hl]
    exact .obj (isGap_newLine (level + 1)) (writes_fields (isGap_newLine (level + 1))
      (isGap_newLine level) hl fun field hf => ih field hf (level + 1))

/-! Values that have texts. -/

theorem spells_integer (i : Int) : Spells (.value (.int i)) (Decimal.integer i) := by
  by_cases h : i < 0
  · have hs := Spells.negative i.natAbs
    rw [show -(i.natAbs : Int) = i by omega] at hs
    simpa [Decimal.integer, Decimal.sign, h] using hs
  · have hs := Spells.natural i.natAbs
    rw [show (i.natAbs : Int) = i by omega] at hs
    simpa [Decimal.integer, Decimal.sign, h] using hs

theorem spells_printLeaf {v : Json} (hv : Portable v) (h : IsLeaf v) :
    Spells (.value v) (printLeaf v) := by
  cases hv with
  | null => exact .null
  | bool b => exact .bool b
  | int i => exact spells_integer i
  | str t ht => exact .str (spells_printText ht)
  | arr l =>
    obtain rfl : l = [] := h
    exact .noItems isGap_nil
  | obj l =>
    obtain rfl : l = [] := h
    exact .noFields isGap_nil

/-- The values in a phrase have texts, and so have the names. -/
def Phrase.HasTexts : Phrase → Prop
  | value v => Json.Portable v
  | items l => ∀ v ∈ l, Json.Portable v
  | fields l => ∀ field ∈ l, IsScalar field.1 ∧ Json.Portable field.2

/-- A text that has the whole of a value in it spells the value. -/
theorem Writes.spells {p : Phrase} {t : Text} (h : Writes p t) (hp : p.HasTexts) : Spells p t := by
  induction h with
  | leaf h => exact spells_printLeaf hp h
  | arr hg h ih =>
    cases hp with
    | arr _ hl => exact .arr hg (ih hl)
  | lastItem h hg ih => exact .lastItem (ih (hp _ List.mem_cons_self)) hg
  | item h hg ha hl ih ihl =>
    exact .item (ih (hp _ List.mem_cons_self)) hg ha
      (ihl fun v hv => hp v (List.mem_cons_of_mem _ hv))
  | obj hg h ih =>
    cases hp with
    | obj _ _ hs hl => exact .obj hg (ih fun field hf => ⟨hs field hf, hl field hf⟩)
  | lastField name hg hb h ha ih =>
    obtain ⟨hs, hv⟩ := hp _ List.mem_cons_self
    simpa [printText] using Spells.lastField (spells_printText hs) hg hb (ih hv) ha
  | field name hg hb h ha hx hl ih ihl =>
    obtain ⟨hs, hv⟩ := hp _ List.mem_cons_self
    simpa [printText] using Spells.field (spells_printText hs) hg hb (ih hv) ha hx
      (ihl fun field hf => hp field (List.mem_cons_of_mem _ hf))

/-! The code points that are written. -/

def IsPlain (t : Text) : Prop :=
  ∀ c ∈ t, c = CodePoint.newline ∨ (0x20 ≤ c.val ∧ c.val ≤ 0x7E)

instance (t : Text) : Decidable (IsPlain t) := List.decidableBAll _ t

theorem isPlain_nil : IsPlain [] := by decide

theorem IsPlain.append {s t : Text} (hs : IsPlain s) (ht : IsPlain t) : IsPlain (s ++ t) :=
  List.forall_mem_append.mpr ⟨hs, ht⟩

theorem IsPlain.joinWith {sep : Text} {parts : List Text} (hs : IsPlain sep)
    (h : ∀ t ∈ parts, IsPlain t) : IsPlain (Text.joinWith sep parts) := by
  induction parts with
  | nil => exact isPlain_nil
  | cons t parts ih =>
    have ht := h t List.mem_cons_self
    cases parts with
    | nil => exact ht
    | cons next parts =>
      exact (ht.append hs).append (ih fun u hu => h u (List.mem_cons_of_mem t hu))

theorem isPlain_hexadecimal (width n : Nat) : IsPlain (Text.hexadecimal width n) := by
  have key : ∀ k : Fin 16, IsPlain [CodePoint.ofHexValue k.val] := by decide
  induction width generalizing n with
  | zero => exact isPlain_nil
  | succ width ih =>
    have hdigit := key ⟨n % 16, Nat.mod_lt n (by decide)⟩
    exact (ih (n / 16)).append (by simpa [CodePoint.ofHexValue] using hdigit)

theorem isPlain_unitEscape (n : Nat) : IsPlain (unitEscape n) :=
  IsPlain.append (by decide) (isPlain_hexadecimal 4 n)

theorem isPlain_printCodePoint (c : CodePoint) : IsPlain (printCodePoint c) := by
  fun_cases printCodePoint c with
  | case3 _ _ hplain =>
    intro d hd
    exact .inr (List.mem_singleton.mp hd ▸ hplain)
  | case9 => exact isPlain_unitEscape _
  | case10 => exact (isPlain_unitEscape _).append (isPlain_unitEscape _)
  | _ => decide

theorem isPlain_printText (t : Text) : IsPlain (printText t) := by
  refine IsPlain.append (IsPlain.append (by decide) ?_) (by decide)
  intro d hd
  obtain ⟨c, -, hd⟩ := List.mem_flatMap.mp hd
  exact isPlain_printCodePoint c d hd

theorem isPlain_sign (negative : Bool) : IsPlain (Decimal.sign negative) := by
  cases negative <;> decide

theorem isPlain_natural (n : Nat) : IsPlain (Decimal.natural n) := by
  intro c hc
  have hd := Decimal.isDigit_of_mem_natural hc
  simp [CodePoint.isAsciiDigit] at hd
  omega

theorem isPlain_integer (i : Int) : IsPlain (Decimal.integer i) :=
  (isPlain_sign _).append (isPlain_natural _)

theorem isPlain_newLine (level : Nat) : IsPlain (newLine level) := by
  intro c hc
  rcases List.mem_cons.mp hc with rfl | hc
  · decide
  · rw [List.eq_of_mem_replicate hc]
    decide

theorem isPlain_fields {text : Json → Text} {sep : Text} {l : List (Text × Json)}
    (hs : IsPlain sep) (h : ∀ field ∈ l, IsPlain (text field.2)) :
    IsPlain (Text.joinWith sep (l.map (fieldText text))) := by
  refine IsPlain.joinWith hs fun t ht => ?_
  obtain ⟨field, hf, rfl⟩ := List.mem_map.mp ht
  exact ((isPlain_printText field.1).append (by decide)).append (h field hf)

theorem isPlain_items {text : Json → Text} {sep : Text} {l : List Json}
    (hs : IsPlain sep) (h : ∀ v ∈ l, IsPlain (text v)) :
    IsPlain (Text.joinWith sep (l.map text)) := by
  refine IsPlain.joinWith hs fun t ht => ?_
  obtain ⟨v, hv, rfl⟩ := List.mem_map.mp ht
  exact h v hv

theorem isPlain_zeros (n : Nat) : IsPlain (Decimal.zeros n) := by
  intro c hc
  rw [List.eq_of_mem_replicate hc]
  decide

theorem IsPlain.of_subset {s t : Text} (ht : IsPlain t) (h : s ⊆ t) : IsPlain s :=
  fun c hc => ht c (h hc)

theorem isPlain_write (style : Decimal.Style) (digits : Nat) (scale : Int) :
    IsPlain (style.write digits scale) := by
  have hds := isPlain_natural digits
  have htake (n : Nat) := hds.of_subset (List.take_subset n _)
  have hdrop (n : Nat) := hds.of_subset (List.drop_subset n _)
  unfold Decimal.Style.write
  dsimp only
  split
  · split
    · exact ((by decide : IsPlain _).append (isPlain_zeros _)).append hds
    · split
      · exact ((htake _).append (by decide)).append (hdrop _)
      · exact (hds.append (isPlain_zeros _)).append (by decide)
  · refine (((htake 1).append ?_).append (by decide)).append ?_
    · split
      · exact isPlain_nil
      · exact (by decide : IsPlain _).append (hdrop 1)
    · refine (IsPlain.append ?_ (isPlain_zeros _)).append (isPlain_natural _)
      split <;> decide

theorem isPlain_printLeaf (v : Json) : IsPlain (printLeaf v) := by
  cases v with
  | bool b => cases b <;> decide
  | int i => exact isPlain_integer i
  | float x =>
    cases x with
    | nan => decide
    | infinite negative => cases negative <;> decide
    | finite negative s e => exact (isPlain_sign negative).append (isPlain_write _ _ _)
  | str t => exact isPlain_printText t
  | null => decide
  | arr l => exact (by decide : IsPlain (printLeaf (arr [])))
  | obj l => exact (by decide : IsPlain (printLeaf (obj [])))

theorem isPlain_print (v : Json) : IsPlain (print v) := by
  induction v using recurse with
  | leaf v h =>
    rw [print_of_isLeaf h]
    exact isPlain_printLeaf v
  | arr l hl ih =>
    rw [print, printItems_eq]
    exact ((by decide : IsPlain _).append (isPlain_items (by decide) ih)).append (by decide)
  | obj l hl ih =>
    rw [print, printFields_eq]
    exact ((by decide : IsPlain _).append (isPlain_fields (by decide) ih)).append (by decide)

theorem isPlain_layOut (v : Json) (level : Nat) : IsPlain (layOut level v) := by
  have hseparator (level : Nat) : IsPlain (layOutSeparator level) :=
    IsPlain.append (s := [CodePoint.comma]) (by decide) (isPlain_newLine level)
  have hbetween {opening closing : CodePoint} {t : Text} (ho : IsPlain [opening])
      (hc : IsPlain [closing]) (ht : IsPlain t) (level : Nat) :
      IsPlain (opening :: (newLine (level + 1) ++ (t ++ newLine level ++ [closing]))) :=
    ho.append ((isPlain_newLine _).append ((ht.append (isPlain_newLine level)).append hc))
  induction v using recurse generalizing level with
  | leaf v h =>
    rw [layOut_of_isLeaf h]
    exact isPlain_printLeaf v
  | arr l hl ih =>
    rw [layOut_arr hl]
    exact hbetween (by decide) (by decide)
      (isPlain_items (hseparator _) fun v hv => ih v hv (level + 1)) level
  | obj l hl ih =>
    rw [layOut_obj hl]
    exact hbetween (by decide) (by decide)
      (isPlain_fields (hseparator _) fun field hf => ih field hf (level + 1)) level

theorem IsPlain.escapeControl_not_mem {t : Text} (h : IsPlain t) : Text.escapeControl ∉ t :=
  fun hc => absurd (h _ hc) (by decide)

theorem IsPlain.isAscii {t : Text} (h : IsPlain t) : ∀ c ∈ t, c.val < 0x80 := by
  intro c hc
  rcases h c hc with rfl | hc
  · decide
  · omega

/-! Whole texts. -/

section Texts

variable {v : Json} (h : Portable v)
include h

/-- The text on one line is a text of the value. -/
theorem isTextOf_print : IsTextOf v (print v) :=
  ⟨[], print v, [], isGap_nil, (writes_print v).spells h, isGap_nil, by simp⟩

/-- The text that is laid out is a text of the value, as a line of its own too. -/
theorem isTextOf_indented : IsTextOf v (indented v ++ [CodePoint.newline]) := by
  refine ⟨[], indented v, [CodePoint.newline], isGap_nil, (writes_layOut v 0).spells h, ?_, rfl⟩
  intro c hc
  rw [List.mem_singleton.mp hc]
  decide

end Texts

end Json

end StorageGateway
