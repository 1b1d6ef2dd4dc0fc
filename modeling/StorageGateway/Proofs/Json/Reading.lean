import StorageGateway.Proofs.Bodies
import StorageGateway.Proofs.Json.Grammar

/-! Every text of a value is read as that value, whatever follows it. The proof goes along the
grammar: each phrase is read up to its end, with fuel for twice its length. -/
namespace StorageGateway

/-! Digits. -/

theorem CodePoint.ne_of_isAsciiDigit {c d : CodePoint} (hc : c.isAsciiDigit = true)
    (hd : d.isAsciiDigit = false) : c ≠ d := by
  rintro rfl
  rw [hc] at hd
  cases hd

namespace Decimal

theorem natural_eq_cons (n : Nat) : ∃ c u, natural n = c :: u ∧ c.isAsciiDigit = true := by
  obtain ⟨c, u, h⟩ := List.exists_cons_of_ne_nil (natural_ne_nil n)
  exact ⟨c, u, h, isDigit_of_mem_natural (n := n) (by simp [h])⟩

/-- No number but zero starts with a zero. -/
theorem head?_natural {n : Nat} (h : 0 < n) : (natural n).head? ≠ some 0x30 := by
  have key : ∀ k : Fin 10, 0 < k.val → digit k.val ≠ 0x30 := by decide
  induction n using Nat.strongRecOn with
  | ind n ih =>
    by_cases hn : n < 10
    · rw [natural_of_lt hn]
      simpa using key ⟨n, hn⟩ h
    · rw [natural_of_le (by omega), List.head?_append, Option.or_of_isSome
        (List.isSome_head?.mpr (natural_ne_nil _))]
      exact ih (n / 10) (by omega) (by omega)

theorem zero_not_mem_natural (n : Nat) : 0 ∉ natural n :=
  fun h0 => absurd (isDigit_of_mem_natural h0) (by decide)

end Decimal

namespace Text

theorem hexValue?_isSome_of_mem {t : Text} {n : Nat} (h : hexValue? t = some n) {c : CodePoint}
    (hc : c ∈ t) : c.hexValue?.isSome = true := by
  unfold hexValue? at h
  generalize (0 : Nat) = start at h
  induction t generalizing start with
  | nil => cases hc
  | cons d t ih =>
    rw [List.foldlM_cons] at h
    obtain ⟨m, hm, hrest⟩ := Option.bind_eq_some_iff.mp h
    rcases List.mem_cons.mp hc with rfl | hc
    · obtain ⟨k, hk, -⟩ := Option.map_eq_some_iff.mp hm
      rw [hk, Option.isSome_some]
    · exact ih hc m hrest

theorem zero_not_mem_of_hexValue? {t : Text} {n : Nat} (h : hexValue? t = some n) : 0 ∉ t :=
  fun h0 => absurd (hexValue?_isSome_of_mem h h0) (by decide)

end Text

/-! Fields that have each name once are kept as they stand. -/

namespace Fields

variable {β : Type}

theorem put_of_not_mem {name : Text} {fields : Fields β} (h : name ∉ fields.names) (value : β) :
    put name value fields = fields ++ [(name, value)] := by
  induction fields with
  | nil => rfl
  | cons field fields ih =>
    obtain ⟨n, v⟩ := field
    simp only [names, List.map_cons, List.mem_cons, not_or] at h
    simp [put, Ne.symm h.1, ih h.2]

theorem foldl_put (l fields : Fields β) (h : (fields ++ l).names.Nodup) :
    l.foldl (fun fields (field : Text × β) => put field.1 field.2 fields) fields =
      fields ++ l := by
  induction l generalizing fields with
  | nil => simp
  | cons field l ih =>
    obtain ⟨name, value⟩ := field
    have hname : name ∉ names fields := by
      intro hmem
      rw [names, List.map_append, List.nodup_append] at h
      exact h.2.2 name hmem name List.mem_cons_self rfl
    rw [List.foldl_cons, put_of_not_mem hname, ih _ (by simpa using h)]
    simp

theorem ofPairs_of_nodup {l : Fields β} (h : l.names.Nodup) : ofPairs l = l := foldl_put l [] h

end Fields

namespace Json

/-! Strings. -/

section Strings

variable (opening : Nat) {c : CodePoint} {rest : Text}

theorem readPieces_close :
    readPieces opening (CodePoint.quotation :: rest) = .ok ([], rest) := by
  rw [readPieces.eq_def]
  simp

theorem readPieces_plain (hc : 0x20 ≤ c.val) (hq : c ≠ CodePoint.quotation)
    (hb : c ≠ CodePoint.backslash) :
    readPieces opening (c :: rest) = prepend (.plain c) (readPieces opening rest) := by
  have hlow : ¬ c.val < 0x20 := by omega
  rw [readPieces.eq_def]
  simp only [hq, hb, hlow, if_false]

theorem readPieces_short {letter : CodePoint} (h : (letter, c) ∈ shortEscapes) :
    readPieces opening (CodePoint.backslash :: letter :: rest) =
      prepend (.plain c) (readPieces opening rest) := by
  have key : shortEscapes.all (fun e => e.1 ≠ 0x75 && shortEscape? e.1 == some e.2) = true := by
    decide
  obtain ⟨hu, hs⟩ : letter ≠ 0x75 ∧ shortEscape? letter = some c := by
    simpa using List.all_eq_true.mp key _ h
  have hq : CodePoint.backslash ≠ CodePoint.quotation := by decide
  rw [readPieces.eq_def]
  simp only [hq, hu, hs, if_false, if_true]

theorem readPieces_unit {digits : Text} {n : Nat} (hd : digits.length = 4)
    (hn : Text.hexValue? digits = some n) (hrest : rest ≠ []) :
    readPieces opening (CodePoint.backslash :: 0x75 :: (digits ++ rest)) =
      prepend (.escaped (CodePoint.ofNat n)) (readPieces opening rest) := by
  have hq : CodePoint.backslash ≠ CodePoint.quotation := by decide
  match digits, hd with
  | [a, b, d, e], _ =>
    rw [readPieces.eq_def]
    simp only [hq, if_false, if_true, List.cons_append, List.nil_append, hn, hrest]

end Strings

/-- A unit that is no half stands for itself, whatever comes after it. -/
theorem joinPieces_escaped {u : CodePoint} (h : u.isHighSurrogate = false) (pieces : List Piece) :
    joinPieces (.escaped u :: pieces) = u :: joinPieces pieces := by
  cases pieces with
  | nil => rfl
  | cons piece pieces => cases piece <;> simp [joinPieces, h]

theorem isHighSurrogate_ofNat {n : Nat} (h : n < 0xD800 ∨ 0xE000 ≤ n) :
    (CodePoint.ofNat n).isHighSurrogate = false := by
  by_cases hn : n < 0x110000
  · simp only [CodePoint.isHighSurrogate, CodePoint.val_ofNat_of_lt hn, Bool.and_eq_false_iff,
      decide_eq_false_iff_not]
    omega
  · simp only [CodePoint.ofNat, hn, dif_neg, not_false_eq_true]
    decide

theorem joinPieces_pair {m n : Nat} (high : 0xD800 ≤ m ∧ m < 0xDC00)
    (low : 0xDC00 ≤ n ∧ n < 0xE000) (pieces : List Piece) :
    joinPieces (.escaped (CodePoint.ofNat m) :: .escaped (CodePoint.ofNat n) :: pieces) =
      CodePoint.ofNat (0x10000 + (m - 0xD800) * 0x400 + (n - 0xDC00)) :: joinPieces pieces := by
  have hm : (CodePoint.ofNat m).val = m := CodePoint.val_ofNat_of_lt (by omega)
  have hn : (CodePoint.ofNat n).val = n := CodePoint.val_ofNat_of_lt (by omega)
  have hhigh : (CodePoint.ofNat m).isHighSurrogate = true := by
    simp [CodePoint.isHighSurrogate, hm, high]
  have hlow : (CodePoint.ofNat n).isLowSurrogate = true := by
    simp [CodePoint.isLowSurrogate, hn, low]
  simp [joinPieces, hhigh, hlow, CodePoint.ofHalves, hm, hn]

/-- The spelling of a code point is read as pieces that join to it. -/
theorem SpellsCodePoint.readPieces {c : CodePoint} {t : Text} (h : SpellsCodePoint c t)
    (opening : Nat) (rest : Text) (hrest : rest ≠ []) :
    ∃ pieces : List Piece,
      (∀ more, joinPieces (pieces ++ more) = c :: joinPieces more) ∧
      readPieces opening (t ++ rest) = pieces.foldr prepend (Json.readPieces opening rest) := by
  cases h with
  | plain hc hq hb =>
    exact ⟨[.plain c], fun more => rfl, readPieces_plain opening hc hq hb⟩
  | short h => exact ⟨[.plain c], fun more => rfl, readPieces_short opening h⟩
  | @unit digits n hd hn hs =>
    exact ⟨[.escaped (CodePoint.ofNat n)], joinPieces_escaped (isHighSurrogate_ofNat hs),
      readPieces_unit opening hd hn hrest⟩
  | @pair first second m n hf hs hm hn high low =>
    refine ⟨[.escaped (CodePoint.ofNat m), .escaped (CodePoint.ofNat n)],
      joinPieces_pair high low, ?_⟩
    simp only [List.cons_append, List.append_assoc, List.foldr_cons, List.foldr_nil]
    rw [readPieces_unit opening hf hm (by simp), readPieces_unit opening hs hn hrest]

/-- Pieces in front of what is read are put in front of it. -/
theorem foldr_prepend (first pieces : List Piece) (rest : Text) :
    first.foldr prepend (.ok (pieces, rest)) = .ok (first ++ pieces, rest) := by
  induction first with
  | nil => rfl
  | cons piece first ih => simp [ih, prepend, Except.map]

theorem SpellsText.readPieces {s t : Text} (h : SpellsText s t) (opening : Nat) (rest : Text) :
    ∃ pieces, readPieces opening (t ++ CodePoint.quotation :: rest) = .ok (pieces, rest) ∧
      joinPieces pieces = s := by
  induction h with
  | nil => exact ⟨[], readPieces_close opening, rfl⟩
  | @cons c s t u hc _ ih =>
    obtain ⟨pieces, hread, hjoin⟩ := ih
    obtain ⟨first, hfirst, hc⟩ := hc.readPieces opening (u ++ CodePoint.quotation :: rest) (by simp)
    refine ⟨first ++ pieces, ?_, by rw [hfirst, hjoin]⟩
    rw [List.append_assoc, hc, hread, foldr_prepend]

/-- A string is read up to its closing mark. -/
theorem SpellsText.readText {s t : Text} (h : SpellsText s t) (rest : Text) :
    readText (t ++ CodePoint.quotation :: rest) = .ok (s, rest) := by
  obtain ⟨pieces, hread, hjoin⟩ :=
    h.readPieces ((t ++ CodePoint.quotation :: rest).length + 1) rest
  unfold Json.readText
  rw [hread]
  exact congrArg (fun s => Except.ok (s, rest)) hjoin

/-! Integers. -/

/-- What may follow a number: nothing that would carry it on. -/
def Ends (t : Text) : Prop :=
  ∀ c ∈ t.head?, c.isAsciiDigit = false ∧ c ≠ CodePoint.dot ∧ c ≠ 0x65 ∧ c ≠ 0x45

theorem takePlaces_of_ends {t : Text} (h : Ends t) : takePlaces t = ([], t) := by
  cases t with
  | nil => rfl
  | cons c t =>
    obtain ⟨-, hdot, -, -⟩ := h c rfl
    simp [takePlaces, hdot]

theorem takeExponent_of_ends {t : Text} (h : Ends t) : takeExponent t = (none, t) := by
  cases t with
  | nil => rfl
  | cons c t =>
    obtain ⟨-, -, he, hE⟩ := h c rfl
    simp [takeExponent, he, hE]

/-- What may follow a run of digits. -/
def Stops (t : Text) : Prop := ∀ c ∈ t.head?, c.isAsciiDigit = false

theorem Ends.stops {t : Text} (h : Ends t) : Stops t := fun c hc => (h c hc).1

theorem takeWhile_append_of_stops {t rest : Text} (ht : ∀ c ∈ t, c.isAsciiDigit = true)
    (h : Stops rest) :
    (t ++ rest).takeWhile CodePoint.isAsciiDigit = t ∧
      (t ++ rest).dropWhile CodePoint.isAsciiDigit = rest := by
  rw [List.takeWhile_append_of_pos ht, List.dropWhile_append_of_pos ht]
  cases rest with
  | nil => simp
  | cons c rest =>
    have hc := h c rfl
    simp [hc]

/-- A whole part: digits, of which the first one is a zero only if it stands alone. -/
structure IsWholePart (t : Text) : Prop where
  ne_nil : t ≠ []
  digits : ∀ c ∈ t, c.isAsciiDigit = true
  zero : t.head? = some 0x30 → t = [0x30]

theorem isWholePart_natural (n : Nat) : IsWholePart (Decimal.natural n) where
  ne_nil := Decimal.natural_ne_nil n
  digits := fun _ => Decimal.isDigit_of_mem_natural
  zero h := by
    cases n with
    | zero => rfl
    | succ n => exact absurd h (Decimal.head?_natural (Nat.succ_pos n))

theorem IsWholePart.takeWhole {t rest : Text} (ht : IsWholePart t) (h : Stops rest) :
    takeWhole (t ++ rest) = (t, rest) := by
  obtain ⟨htake, hdrop⟩ := takeWhile_append_of_stops ht.digits h
  obtain ⟨c, u, rfl⟩ := List.exists_cons_of_ne_nil ht.ne_nil
  by_cases hc : c = 0x30
  · obtain rfl : u = [] := (List.cons.inj (ht.zero (by simp [hc]))).2
    simp [Json.takeWhole, hc]
  · simp only [Json.takeWhole, List.cons_append, hc, if_false]
    exact Prod.ext htake hdrop

/-- The digits of a number are read up to what ends them. -/
theorem readUnsigned_natural (negative : Bool) (start : Nat) {n : Nat} {rest : Text}
    (hn : (Decimal.natural n).length ≤ mostDigits) (h : Ends rest) :
    readUnsigned negative start (Decimal.natural n ++ rest) =
      .ok (.int (if negative then -n else n), rest) := by
  have hlong : ¬ mostDigits < (Decimal.natural n).length := by omega
  simp [readUnsigned, (isWholePart_natural n).takeWhole h.stops, takePlaces_of_ends h,
    takeExponent_of_ends h, Decimal.natural_ne_nil, hlong]

/-! Values that hold no others. -/

theorem takeWord_null (rest : Text) :
    takeWord (Text.ofString "null" ++ rest) = some (.null, rest) := rfl

theorem takeWord_bool (b : Bool) (rest : Text) :
    takeWord ((if b then Text.ofString "true" else Text.ofString "false") ++ rest) =
      some (.bool b, rest) := by
  cases b <;> rfl

/-- No word starts with a digit. -/
theorem takeWord_digit {c : CodePoint} (hc : c.isAsciiDigit = true) (t : Text) :
    takeWord (c :: t) = none :=
  takeWord_eq_none 0 (!·.isAsciiDigit) (by decide) (by simp [hc])

/-- The word that starts with a sign goes on with a letter. -/
theorem takeWord_hyphen {c : CodePoint} (hc : c.isAsciiDigit = true) (t : Text) :
    takeWord (CodePoint.hyphen :: c :: t) = none :=
  takeWord_eq_none 1 (!·.isAsciiDigit) (by decide) (by simp [hc])

theorem takeWord_quotation (t : Text) : takeWord (CodePoint.quotation :: t) = none :=
  takeWord_eq_none 0 (· ≠ CodePoint.quotation) (by decide) (by simp)

theorem readLeaf_digit {c : CodePoint} (hc : c.isAsciiDigit = true) (t : Text) :
    readLeaf (c :: t) = readUnsigned false (c :: t).length (c :: t) := by
  have hq : c ≠ CodePoint.quotation := CodePoint.ne_of_isAsciiDigit hc (by decide)
  have hh : c ≠ CodePoint.hyphen := CodePoint.ne_of_isAsciiDigit hc (by decide)
  simp [readLeaf, takeWord_digit hc, hq, hh]

theorem readLeaf_hyphen {c : CodePoint} (hc : c.isAsciiDigit = true) (t : Text) :
    readLeaf (CodePoint.hyphen :: c :: t) =
      readUnsigned true (CodePoint.hyphen :: c :: t).length (c :: t) := by
  have hq : CodePoint.hyphen ≠ CodePoint.quotation := by decide
  simp [readLeaf, takeWord_hyphen hc, hq]

theorem readLeaf_natural {n : Nat} {rest : Text}
    (hn : (Decimal.natural n).length ≤ mostDigits) (h : Ends rest) :
    readLeaf (Decimal.natural n ++ rest) = .ok (.int n, rest) := by
  have hread := readUnsigned_natural false (Decimal.natural n ++ rest).length hn h
  obtain ⟨c, t, hnat, hd⟩ := Decimal.natural_eq_cons n
  rw [hnat] at hread ⊢
  exact (readLeaf_digit hd _).trans hread

theorem readLeaf_negative {n : Nat} {rest : Text}
    (hn : (Decimal.natural n).length ≤ mostDigits) (h : Ends rest) :
    readLeaf (CodePoint.hyphen :: (Decimal.natural n ++ rest)) = .ok (.int (-n), rest) := by
  have hread := readUnsigned_natural true
    (CodePoint.hyphen :: (Decimal.natural n ++ rest)).length hn h
  obtain ⟨c, t, hnat, hd⟩ := Decimal.natural_eq_cons n
  rw [hnat] at hread ⊢
  exact (readLeaf_hyphen hd _).trans hread

theorem readLeaf_quotation {s t rest : Text}
    (h : readText (s ++ CodePoint.quotation :: rest) = .ok (t, rest)) :
    readLeaf (CodePoint.quotation :: (s ++ CodePoint.quotation :: rest)) = .ok (.str t, rest) := by
  unfold readLeaf
  rw [takeWord_quotation]
  simp [h, Except.map]

/-! Gaps. -/

theorem isGap_iff (c : CodePoint) :
    isGap c = true ↔ c = 0x20 ∨ c = 0x09 ∨ c = 0x0A ∨ c = 0x0D := by
  simp only [isGap, Bool.or_eq_true, beq_iff_eq, or_assoc, Fin.ext_iff]
  rfl

theorem skipGap_append {gap : Text} (h : IsGap gap) (t : Text) : skipGap (gap ++ t) = skipGap t :=
  List.dropWhile_append_of_pos fun c hc => (isGap_iff c).mpr (h c hc)

theorem skipGap_cons {c : CodePoint} (h : isGap c = false) (t : Text) :
    skipGap (c :: t) = c :: t := by
  simp [skipGap, h]

theorem ends_nil : Ends [] := by
  intro c hc
  cases hc

/-- What is no gap is what skipping comes to. -/
theorem IsGap.skip_cons {gap : Text} (h : IsGap gap) {c : CodePoint} (hc : isGap c = false)
    (t : Text) : skipGap (gap ++ c :: t) = c :: t := by
  rw [skipGap_append h, skipGap_cons hc]

theorem IsGap.ends {gap rest : Text} (h : IsGap gap) (hrest : Ends rest) : Ends (gap ++ rest) := by
  cases gap with
  | nil => exact hrest
  | cons c gap =>
    intro d hd
    obtain rfl : c = d := by simpa using hd
    have key : ∀ c : CodePoint, c = 0x20 ∨ c = 0x09 ∨ c = 0x0A ∨ c = 0x0D →
        c.isAsciiDigit = false ∧ c ≠ CodePoint.dot ∧ c ≠ 0x65 ∧ c ≠ 0x45 := by
      rintro c (rfl | rfl | rfl | rfl) <;> decide
    exact key c (h c List.mem_cons_self)

theorem ends_cons {c : CodePoint} (rest : Text)
    (h : c = CodePoint.comma ∨ c = CodePoint.closeBracket ∨ c = CodePoint.closeBrace) :
    Ends (c :: rest) := by
  intro d hd
  obtain rfl : c = d := by simpa using hd
  rcases h with rfl | rfl | rfl <;> decide

/-! Lists and objects, one step each. -/

/-- A code point that a value or a name may start with. -/
def IsStart (c : CodePoint) : Prop :=
  isGap c = false ∧ c ≠ CodePoint.closeBracket ∧ c ≠ CodePoint.closeBrace ∧ c.val < 0x80

instance (c : CodePoint) : Decidable (IsStart c) :=
  inferInstanceAs (Decidable (_ ∧ _ ∧ _ ∧ _))

def Starts (t : Text) : Prop := ∃ c u, t = c :: u ∧ IsStart c

theorem Starts.append {t : Text} (h : Starts t) (rest : Text) : Starts (t ++ rest) := by
  obtain ⟨c, u, rfl, hc⟩ := h
  exact ⟨c, u ++ rest, rfl, hc⟩

theorem IsGap.skip_starts {gap t : Text} (h : IsGap gap) (ht : Starts t) :
    skipGap (gap ++ t) = t := by
  obtain ⟨c, u, rfl, hc, -⟩ := ht
  exact h.skip_cons hc u

theorem isStart_digit {c : CodePoint} (h : c.isAsciiDigit = true) : IsStart c := by
  have hval : 0x30 ≤ c.val ∧ c.val ≤ 0x39 := by simpa [CodePoint.isAsciiDigit] using h
  exact ⟨by simp [isGap]; omega, CodePoint.ne_of_isAsciiDigit h (by decide),
    CodePoint.ne_of_isAsciiDigit h (by decide), by omega⟩

theorem starts_natural (n : Nat) : Starts (Decimal.natural n) := by
  obtain ⟨c, u, hnat, hd⟩ := Decimal.natural_eq_cons n
  exact ⟨c, u, hnat, isStart_digit hd⟩

/-- A spelling starts with no gap and closes nothing. -/
theorem Spells.starts {p : Phrase} {t : Text} (h : Spells p t) : Starts t := by
  induction h with
  | null => exact ⟨_, _, rfl, by decide⟩
  | bool b => cases b <;> exact ⟨_, _, rfl, by decide⟩
  | natural n => exact starts_natural n
  | negative n => exact ⟨_, _, rfl, by decide⟩
  | str h => exact ⟨_, _, rfl, by decide⟩
  | noItems hg => exact ⟨_, _, rfl, by decide⟩
  | arr hg h ih => exact ⟨_, _, rfl, by decide⟩
  | lastItem h hg ih => exact (ih.append _).append _
  | item h hg ha hl ih ihl => exact (ih.append _).append _
  | noFields hg => exact ⟨_, _, rfl, by decide⟩
  | obj hg h ih => exact ⟨_, _, rfl, by decide⟩
  | lastField hn hg hb h ha ih => exact ⟨_, _, rfl, by decide⟩
  | field hn hg hb h ha hx hl ih ihl => exact ⟨_, _, rfl, by decide⟩

section Steps

variable {fuel : Nat} {v : Json} {gap t r rest : Text}

theorem readValue_leaf {c : CodePoint} (h₁ : c ≠ CodePoint.openBracket)
    (h₂ : c ≠ CodePoint.openBrace) : readValue (fuel + 1) (c :: t) = readLeaf (c :: t) := by
  simp [readValue, h₁, h₂]

theorem readValue_noItems (hg : IsGap gap) :
    readValue (fuel + 1) (CodePoint.openBracket :: (gap ++ CodePoint.closeBracket :: rest)) =
      .ok (.arr [], rest) := by
  have hclose := hg.skip_cons (c := CodePoint.closeBracket) (by decide) rest
  simp [readValue, hclose]

theorem readValue_items {l : List Json} (hg : IsGap gap) (ht : Starts t)
    (h : readItems fuel t = .ok (l, rest)) :
    readValue (fuel + 1) (CodePoint.openBracket :: (gap ++ t)) = .ok (.arr l, rest) := by
  have hitems := hg.skip_starts ht
  obtain ⟨c, u, rfl, hc⟩ := ht
  simp [readValue, hitems, hc.2.1, h, Except.map]

theorem readValue_noFields (hg : IsGap gap) :
    readValue (fuel + 1) (CodePoint.openBrace :: (gap ++ CodePoint.closeBrace :: rest)) =
      .ok (.obj [], rest) := by
  have hb : CodePoint.openBrace ≠ CodePoint.openBracket := by decide
  have hclose := hg.skip_cons (c := CodePoint.closeBrace) (by decide) rest
  simp [readValue, hclose, hb]

theorem readValue_fields {l : Fields Json} (hg : IsGap gap) (ht : Starts t)
    (h : readFields fuel t = .ok (l, rest)) :
    readValue (fuel + 1) (CodePoint.openBrace :: (gap ++ t)) =
      .ok (.obj (Fields.ofPairs l), rest) := by
  have hb : CodePoint.openBrace ≠ CodePoint.openBracket := by decide
  have hfields := hg.skip_starts ht
  obtain ⟨c, u, rfl, hc⟩ := ht
  simp [readValue, hfields, hb, hc.2.2.1, h, Except.map]

theorem readItems_last (h : readValue fuel t = .ok (v, gap ++ CodePoint.closeBracket :: rest))
    (hg : IsGap gap) : readItems (fuel + 1) t = .ok ([v], rest) := by
  have hclose := hg.skip_cons (c := CodePoint.closeBracket) (by decide) rest
  simp [readItems, h, hclose, bind, Except.bind]

theorem readItems_more {l : List Json} {after u : Text}
    (h : readValue fuel t = .ok (v, gap ++ CodePoint.comma :: (after ++ u))) (hg : IsGap gap)
    (ha : IsGap after) (hu : Starts u) (hl : readItems fuel u = .ok (l, rest)) :
    readItems (fuel + 1) t = .ok (v :: l, rest) := by
  have hne : CodePoint.comma ≠ CodePoint.closeBracket := by decide
  have hcomma := hg.skip_cons (c := CodePoint.comma) (by decide) (after ++ u)
  simp [readItems, h, hcomma, hne, ha.skip_starts hu, hl, Except.map, bind, Except.bind]

section Fields

variable {name s u before after : Text}
  (hn : ∀ rest, readText (s ++ CodePoint.quotation :: rest) = .ok (name, rest)) (hg : IsGap gap)
  (hb : IsGap before) (hu : Starts u) (ha : IsGap after)
include hn hg hb hu ha

theorem readFields_last (h : readValue fuel u = .ok (v, after ++ CodePoint.closeBrace :: rest)) :
    readFields (fuel + 1) (CodePoint.quotation :: (s ++ CodePoint.quotation ::
      (gap ++ CodePoint.colon :: (before ++ u)))) = .ok ([(name, v)], rest) := by
  have hcolon := hg.skip_cons (c := CodePoint.colon) (by decide) (before ++ u)
  have hclose := ha.skip_cons (c := CodePoint.closeBrace) (by decide) rest
  simp [readFields, hn, hcolon, hb.skip_starts hu, h, hclose, bind, Except.bind]

theorem readFields_more {l : List (Text × Json)} {next w : Text} (hx : IsGap next) (hw : Starts w)
    (h : readValue fuel u = .ok (v, after ++ CodePoint.comma :: (next ++ w)))
    (hl : readFields fuel w = .ok (l, rest)) :
    readFields (fuel + 1) (CodePoint.quotation :: (s ++ CodePoint.quotation ::
      (gap ++ CodePoint.colon :: (before ++ u)))) = .ok ((name, v) :: l, rest) := by
  have hne : CodePoint.comma ≠ CodePoint.closeBrace := by decide
  have hcolon := hg.skip_cons (c := CodePoint.colon) (by decide) (before ++ u)
  have hcomma := ha.skip_cons (c := CodePoint.comma) (by decide) (next ++ w)
  simp [readFields, hn, hcolon, hb.skip_starts hu, h, hcomma, hne, hx.skip_starts hw, hl,
    Except.map, bind, Except.bind]

end Fields

end Steps

/-- What reading a phrase from its spelling means. A number needs to see its end. -/
def Phrase.ReadsFrom : Phrase → Text → Prop
  | value v, t => ∀ fuel rest, 2 * t.length ≤ fuel → Ends rest →
      readValue fuel (t ++ rest) = .ok (v, rest)
  | items l, t => ∀ fuel rest, 2 * t.length < fuel → readItems fuel (t ++ rest) = .ok (l, rest)
  | fields l, t => ∀ fuel rest, 2 * t.length < fuel → readFields fuel (t ++ rest) = .ok (l, rest)

theorem readsFrom_leaf {v : Json} {t : Text}
    (ht : ∃ c u, t = c :: u ∧ c ≠ CodePoint.openBracket ∧ c ≠ CodePoint.openBrace)
    (h : ∀ rest, Ends rest → readLeaf (t ++ rest) = .ok (v, rest)) :
    (Phrase.value v).ReadsFrom t := by
  obtain ⟨c, u, rfl, h₁, h₂⟩ := ht
  intro fuel rest hfuel hrest
  cases fuel with
  | zero => simp at hfuel
  | succ fuel => exact (readValue_leaf h₁ h₂).trans (h rest hrest)

/-! Each bracket, comma and brace is one code point and pays for the two calls that it leads to. -/

section Phrases

variable {v : Json} {gap after t u : Text}

theorem readsFrom_noItems (hg : IsGap gap) : (Phrase.value (.arr [])).ReadsFrom
    (CodePoint.openBracket :: (gap ++ [CodePoint.closeBracket])) := by
  rintro (_ | fuel) rest hfuel -
  · simp at hfuel
  · rw [List.cons_append, List.append_assoc]
    exact readValue_noItems hg

theorem readsFrom_arr {l : List Json} (hg : IsGap gap) (ht : Starts t)
    (h : (Phrase.items l).ReadsFrom t) :
    (Phrase.value (.arr l)).ReadsFrom (CodePoint.openBracket :: (gap ++ t)) := by
  rintro (_ | fuel) rest hfuel -
  · simp at hfuel
  · rw [List.cons_append, List.append_assoc]
    refine readValue_items hg (ht.append rest) (h fuel rest ?_)
    simp at hfuel
    omega

theorem readsFrom_lastItem (h : (Phrase.value v).ReadsFrom t) (hg : IsGap gap) :
    (Phrase.items [v]).ReadsFrom (t ++ gap ++ [CodePoint.closeBracket]) := by
  rintro (_ | fuel) rest hfuel
  · simp at hfuel
  · refine readItems_last ?_ hg
    have hread := h fuel (gap ++ CodePoint.closeBracket :: rest)
      (by simp at hfuel; omega) (hg.ends (ends_cons rest (by simp)))
    simpa using hread

theorem readsFrom_item {l : List Json} (h : (Phrase.value v).ReadsFrom t) (hg : IsGap gap)
    (ha : IsGap after) (hu : Starts u) (hl : (Phrase.items l).ReadsFrom u) :
    (Phrase.items (v :: l)).ReadsFrom (t ++ gap ++ CodePoint.comma :: (after ++ u)) := by
  rintro (_ | fuel) rest hfuel
  · simp at hfuel
  · have hlen : 2 * (t.length + u.length) < fuel := by simp at hfuel; omega
    have hread := h fuel (gap ++ CodePoint.comma :: (after ++ (u ++ rest))) (by omega)
      (hg.ends (ends_cons _ (by simp)))
    refine readItems_more ?_ hg ha (hu.append rest) (hl fuel rest (by omega))
    simpa using hread

theorem readsFrom_noFields (hg : IsGap gap) : (Phrase.value (.obj [])).ReadsFrom
    (CodePoint.openBrace :: (gap ++ [CodePoint.closeBrace])) := by
  rintro (_ | fuel) rest hfuel -
  · simp at hfuel
  · rw [List.cons_append, List.append_assoc]
    exact readValue_noFields hg

theorem readsFrom_obj {l : Fields Json} (hg : IsGap gap) (hn : l.names.Nodup) (ht : Starts t)
    (h : (Phrase.fields l).ReadsFrom t) :
    (Phrase.value (.obj l)).ReadsFrom (CodePoint.openBrace :: (gap ++ t)) := by
  rintro (_ | fuel) rest hfuel -
  · simp at hfuel
  · rw [List.cons_append, List.append_assoc, readValue_fields hg (ht.append rest)
      (h fuel rest (by simp at hfuel; omega)), Fields.ofPairs_of_nodup hn]

section Fields

variable {name s before : Text}
  (hn : ∀ rest, readText (s ++ CodePoint.quotation :: rest) = .ok (name, rest)) (hg : IsGap gap)
  (hb : IsGap before) (ht : Starts t) (h : (Phrase.value v).ReadsFrom t) (ha : IsGap after)
include hn hg hb ht h ha

theorem readsFrom_lastField : (Phrase.fields [(name, v)]).ReadsFrom
    (CodePoint.quotation :: (s ++ CodePoint.quotation :: (gap ++ CodePoint.colon :: (before ++
      (t ++ after ++ [CodePoint.closeBrace]))))) := by
  rintro (_ | fuel) rest hfuel
  · simp at hfuel
  · have hread := h fuel (after ++ CodePoint.closeBrace :: rest)
      (by simp at hfuel; omega) (ha.ends (ends_cons rest (by simp)))
    simpa using readFields_last hn hg hb (ht.append _) ha hread

theorem readsFrom_field {l : List (Text × Json)} {next : Text} (hx : IsGap next) (hu : Starts u)
    (hl : (Phrase.fields l).ReadsFrom u) : (Phrase.fields ((name, v) :: l)).ReadsFrom
    (CodePoint.quotation :: (s ++ CodePoint.quotation :: (gap ++ CodePoint.colon :: (before ++
      (t ++ after ++ CodePoint.comma :: (next ++ u)))))) := by
  rintro (_ | fuel) rest hfuel
  · simp at hfuel
  · have hlen : 2 * (t.length + u.length) < fuel := by simp at hfuel; omega
    have hread := h fuel (after ++ CodePoint.comma :: (next ++ (u ++ rest))) (by omega)
      (ha.ends (ends_cons _ (by simp)))
    simpa using readFields_more hn hg hb (ht.append _) ha hx (hu.append rest) hread
      (hl fuel rest (by omega))

end Fields

end Phrases

/-- Each phrase is read from any of its spellings. -/
theorem Spells.readsFrom {p : Phrase} {t : Text} (h : Spells p t) (hp : p.Portable) :
    p.ReadsFrom t := by
  induction h with
  | null =>
    refine readsFrom_leaf ⟨_, _, rfl, by decide⟩ fun rest _ => ?_
    rw [readLeaf.eq_def, takeWord_null]
  | bool b =>
    refine readsFrom_leaf (by cases b <;> exact ⟨_, _, rfl, by decide⟩) fun rest _ => ?_
    rw [readLeaf.eq_def, takeWord_bool]
  | natural n =>
    refine readsFrom_leaf ?_ fun rest => readLeaf_natural hp.of_natural
    obtain ⟨c, u, hnat, hd⟩ := Decimal.natural_eq_cons n
    exact ⟨c, u, hnat, CodePoint.ne_of_isAsciiDigit hd (by decide),
      CodePoint.ne_of_isAsciiDigit hd (by decide)⟩
  | negative n =>
    exact readsFrom_leaf ⟨_, _, rfl, by decide⟩ fun rest => readLeaf_negative hp.of_negative
  | str h =>
    refine readsFrom_leaf ⟨_, _, rfl, by decide⟩ fun rest _ => ?_
    simpa using readLeaf_quotation (h.readText rest)
  | noItems hg => exact readsFrom_noItems hg
  | arr hg h ih => exact readsFrom_arr hg h.starts (ih hp.of_arr)
  | lastItem h hg ih => exact readsFrom_lastItem (ih (hp _ List.mem_cons_self)) hg
  | item h hg ha hl ih ihl =>
    exact readsFrom_item (ih (hp _ List.mem_cons_self)) hg ha hl.starts
      (ihl fun w hw => hp w (List.mem_cons_of_mem _ hw))
  | noFields hg => exact readsFrom_noFields hg
  | obj hg h ih => exact readsFrom_obj hg hp.of_obj.1 h.starts (ih hp.of_obj.2)
  | lastField hn hg hb h ha ih =>
    exact readsFrom_lastField hn.readText hg hb h.starts (ih (hp _ List.mem_cons_self)) ha
  | field hn hg hb h ha hx hl ih ihl =>
    exact readsFrom_field hn.readText hg hb h.starts (ih (hp _ List.mem_cons_self)) ha hx hl.starts
      (ihl fun f hf => hp f (List.mem_cons_of_mem _ hf))

/-! Whole texts. -/

section Whole

variable {v : Json} {before u : Text} (hb : IsGap before) (hu : Starts u)
include hb hu

/-- A text starts in ASCII, be it with a gap or with the value. -/
theorem head_of_starts (after : Text) : ∃ c w, before ++ (u ++ after) = c :: w ∧ c.val < 0x80 := by
  cases before with
  | nil =>
    obtain ⟨c, u, rfl, -, -, -, hc⟩ := hu
    exact ⟨c, u ++ after, rfl, hc⟩
  | cons c before =>
    refine ⟨c, before ++ (u ++ after), rfl, ?_⟩
    rcases hb c List.mem_cons_self with rfl | rfl | rfl | rfl <;> decide

variable {after : Text} (h : (Phrase.value v).ReadsFrom u) (ha : IsGap after)
include h ha

theorem readWhole_of_readsFrom : readWhole (before ++ (u ++ after)) = .ok v := by
  have hskip : skipGap (before ++ (u ++ after)) = u ++ after := by
    rw [hb.skip_starts (hu.append after)]
  have hend : skipGap after = [] := by simpa [skipGap] using skipGap_append ha []
  have hends : Ends after := by simpa using ha.ends ends_nil
  have hread := h (2 * (before ++ (u ++ after)).length + 2) after (by simp; omega) hends
  unfold readWhole
  rw [hskip, hread]
  simp [bind, Except.bind, hend]

theorem read_of_readsFrom : read (before ++ (u ++ after)) = .ok v := by
  have hread := readWhole_of_readsFrom hb hu h ha
  obtain ⟨c, w, htext, hc⟩ := head_of_starts hb hu after
  have hmark : c ≠ 0xFEFF := by
    rintro rfl
    exact absurd hc (by decide)
  rw [htext] at hread ⊢
  simp [read, hmark, hread, Except.mapError]

end Whole

section Texts

variable {v : Json} {t : Text}

theorem IsTextOf.head (h : IsTextOf v t) : ∃ c u, t = c :: u ∧ c.val < 0x80 := by
  obtain ⟨before, u, after, hb, hu, -, rfl⟩ := h
  exact head_of_starts hb hu.starts after

theorem IsTextOf.readWhole (h : IsTextOf v t) (hv : Portable v) : readWhole t = .ok v := by
  obtain ⟨before, u, after, hb, hu, ha, rfl⟩ := h
  exact readWhole_of_readsFrom hb hu.starts (hu.readsFrom hv) ha

/-- Every text of a value is read as that value. -/
theorem IsTextOf.read (h : IsTextOf v t) (hv : Portable v) : read t = .ok v := by
  obtain ⟨before, u, after, hb, hu, ha, rfl⟩ := h
  exact read_of_readsFrom hb hu.starts (hu.readsFrom hv) ha

/-! No text holds a zero, so its bytes are taken for UTF-8. -/

theorem IsGap.zero_not_mem (h : IsGap t) : 0 ∉ t := fun h0 => absurd (h 0 h0) (by decide)

theorem SpellsCodePoint.zero_not_mem {c : CodePoint} (h : SpellsCodePoint c t) : 0 ∉ t := by
  have hb : 0 ≠ CodePoint.backslash := by decide
  have hu : (0 : CodePoint) ≠ 0x75 := by decide
  cases h with
  | plain hc hq hb =>
    rw [List.mem_singleton]
    rintro rfl
    exact absurd hc (by decide)
  | short h =>
    have key : shortEscapes.all (fun e => (0 : CodePoint) ≠ e.1) = true := by decide
    have hletter := of_decide_eq_true (List.all_eq_true.mp key _ h)
    simp [hb, hletter]
  | unit hd hn hs => simp [hb, hu, Text.zero_not_mem_of_hexValue? hn]
  | pair hf hs hm hn high low =>
    simp [hb, hu, Text.zero_not_mem_of_hexValue? hm, Text.zero_not_mem_of_hexValue? hn]

theorem SpellsText.zero_not_mem {s : Text} (h : SpellsText s t) : 0 ∉ t := by
  induction h with
  | nil => simp
  | cons hc hs ih => simp [hc.zero_not_mem, ih]

theorem Spells.zero_not_mem {p : Phrase} (h : Spells p t) : 0 ∉ t := by
  have marks : 0 ≠ CodePoint.hyphen ∧ 0 ≠ CodePoint.quotation ∧ 0 ≠ CodePoint.openBracket ∧
      0 ≠ CodePoint.closeBracket ∧ 0 ≠ CodePoint.comma ∧ 0 ≠ CodePoint.openBrace ∧
      0 ≠ CodePoint.closeBrace ∧ 0 ≠ CodePoint.colon := by decide
  induction h with
  | null => decide
  | bool b => cases b <;> decide
  | natural n => exact Decimal.zero_not_mem_natural n
  | negative n => simp [marks, Decimal.zero_not_mem_natural]
  | str h => simp [marks, h.zero_not_mem]
  | noItems hg => simp [marks, hg.zero_not_mem]
  | arr hg h ih => simp [marks, hg.zero_not_mem, ih]
  | lastItem h hg ih => simp [marks, hg.zero_not_mem, ih]
  | item h hg ha hl ih ihl => simp [marks, hg.zero_not_mem, ha.zero_not_mem, ih, ihl]
  | noFields hg => simp [marks, hg.zero_not_mem]
  | obj hg h ih => simp [marks, hg.zero_not_mem, ih]
  | lastField hn hg hb h ha ih =>
    simp [marks, hn.zero_not_mem, hg.zero_not_mem, hb.zero_not_mem, ha.zero_not_mem, ih]
  | field hn hg hb h ha hx hl ih ihl =>
    simp [marks, hn.zero_not_mem, hg.zero_not_mem, hb.zero_not_mem, ha.zero_not_mem,
      hx.zero_not_mem, ih, ihl]

theorem IsTextOf.zero_not_mem (h : IsTextOf v t) : 0 ∉ t := by
  obtain ⟨before, u, after, hb, hu, ha, rfl⟩ := h
  simp [hb.zero_not_mem, hu.zero_not_mem, ha.zero_not_mem]

/-- The bytes of every text of a value are read as that value. -/
theorem IsTextOf.readBytes_encode (h : IsTextOf v t) (hv : Portable v) :
    readBytes (Bytes.Utf8.encode t) = .ok v := by
  have h0 := h.zero_not_mem
  have hread := h.readWhole hv
  obtain ⟨c, u, rfl, hc⟩ := h.head
  have hz : ∀ d ∈ c :: u, d.val ≠ 0 := fun d hd hval =>
    h0 ((Fin.ext hval : d = 0) ▸ hd)
  simp [readBytes, decodeBytes?_encode hc hz, hread, Except.mapError]

end Texts

end Json

end StorageGateway
