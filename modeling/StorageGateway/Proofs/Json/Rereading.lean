import StorageGateway.Proofs.Json.Decimals
import StorageGateway.Proofs.Json.Writing

/-! What is written of a value is read as that value: numbers with a point to the last digit, and
strings with halves of code points too, as long as no two of them make a pair. -/
namespace StorageGateway.Json

/-! Strings. -/

/-- A string in which no two halves next to each other make a code point. -/
def IsJoined (t : Text) : Prop :=
  t.IsChain fun c d => ¬ (c.isHighSurrogate = true ∧ d.isLowSurrogate = true)

theorem isHighSurrogate_of_low {c : CodePoint} (h : c.isLowSurrogate = true) :
    c.isHighSurrogate = false := by
  simp only [CodePoint.isLowSurrogate, CodePoint.isHighSurrogate, Bool.and_eq_true,
    decide_eq_true_eq, Bool.and_eq_false_iff, decide_eq_false_iff_not] at h ⊢
  omega

/-- A half in front of pieces stands for itself if no half that belongs to it comes after. -/
theorem joinPieces_half {c : CodePoint} {pieces : List Piece} {t : Text}
    (h : joinPieces pieces = t) (hc : ∀ d ∈ t.head?,
      ¬ (c.isHighSurrogate = true ∧ d.isLowSurrogate = true)) :
    joinPieces (.escaped c :: pieces) = c :: t := by
  subst h
  cases pieces with
  | nil => rfl
  | cons piece pieces =>
    cases piece with
    | plain d => rfl
    | escaped d =>
      have hpair : ¬ (c.isHighSurrogate = true ∧ d.isLowSurrogate = true) := by
        intro hpair
        have hd : d ∈ (joinPieces (.escaped d :: pieces)).head? := by
          rw [joinPieces_escaped (isHighSurrogate_of_low hpair.2)]
          rfl
        exact hc d hd hpair
      simp [joinPieces, hpair]

theorem printCodePoint_of_surrogate {c : CodePoint} (h : c.isSurrogate = true) :
    printCodePoint c = unitEscape c.val := by
  simp only [CodePoint.isSurrogate, Bool.and_eq_true, decide_eq_true_eq] at h
  have hlarge (d : CodePoint) (hd : d.val < 0x80) : c ≠ d := by
    rintro rfl
    omega
  unfold printCodePoint
  rw [if_neg (hlarge _ (by decide)), if_neg (hlarge _ (by decide)), if_neg (by omega),
    if_neg (hlarge _ (by decide)), if_neg (hlarge _ (by decide)), if_neg (hlarge _ (by decide)),
    if_neg (hlarge _ (by decide)), if_neg (hlarge _ (by decide)), if_pos (by omega)]

/-- The escapes of a code point are read as pieces that join to it, in front of what follows. -/
theorem readPieces_printCodePoint {c : CodePoint} {t : Text} {pieces : List Piece}
    (opening : ℕ) (hj : IsJoined (c :: t)) (hjoin : joinPieces pieces = t) (rest : Text)
    (hrest : rest ≠ []) :
    ∃ first, joinPieces (first ++ pieces) = c :: t ∧
      readPieces opening (printCodePoint c ++ rest) =
        first.foldr prepend (readPieces opening rest) := by
  cases hs : c.isSurrogate with
  | false =>
    obtain ⟨first, hfirst, hread⟩ :=
      (spells_printCodePoint hs).readPieces opening rest hrest
    exact ⟨first, by rw [hfirst, hjoin], hread⟩
  | true =>
    have hc : CodePoint.ofNat c.val = c := by rw [CodePoint.ofNat, dif_pos c.isLt]
    have hval : c.val < 0x10000 := by
      simp only [CodePoint.isSurrogate, Bool.and_eq_true, decide_eq_true_eq] at hs
      omega
    have hread := readPieces_unit opening (Text.length_hexadecimal 4 c.val) (hexValue?_of_lt hval)
      hrest
    rw [hc] at hread
    refine ⟨[.escaped c], joinPieces_half hjoin (List.isChain_cons.mp hj).1, ?_⟩
    rw [printCodePoint_of_surrogate hs]
    exact hread

/-- A string is read as it was written. -/
theorem readText_printed {t : Text} (hj : IsJoined t) (rest : Text) :
    readText (t.flatMap printCodePoint ++ CodePoint.quotation :: rest) = .ok (t, rest) := by
  have hread (opening : ℕ) : ∃ pieces, joinPieces pieces = t ∧
      readPieces opening (t.flatMap printCodePoint ++ CodePoint.quotation :: rest) =
        .ok (pieces, rest) := by
    induction t with
    | nil => exact ⟨[], rfl, readPieces_close opening⟩
    | cons c t ih =>
      obtain ⟨pieces, hjoin, hread⟩ := ih hj.tail
      obtain ⟨first, hfirst, hc⟩ := readPieces_printCodePoint opening hj hjoin
        (t.flatMap printCodePoint ++ CodePoint.quotation :: rest) (by simp)
      refine ⟨first ++ pieces, hfirst, ?_⟩
      rw [List.flatMap_cons, List.append_assoc, hc, hread, foldr_prepend]
  obtain ⟨pieces, hjoin, hread⟩ :=
    hread ((t.flatMap printCodePoint ++ CodePoint.quotation :: rest).length + 1)
  unfold readText
  rw [hread]
  exact congrArg (fun s => Except.ok (s, rest)) hjoin

/-! Values. -/

/-- The values that are read back from what is written of them: integers of no more digits than are
read, numbers of the format, strings without pairs of halves, and each name once in an object. -/
inductive Readable : Json → Prop where
  | null : Readable .null
  | bool (b : Bool) : Readable (.bool b)
  | int (i : Int) (h : (Decimal.natural i.natAbs).length ≤ mostDigits) : Readable (.int i)
  | float (x : Binary64) (h : x.IsProper) : Readable (.float x)
  | str (t : Text) (h : IsJoined t) : Readable (.str t)
  | arr (l : List Json) (h : ∀ v ∈ l, Readable v) : Readable (.arr l)
  | obj (l : Fields Json) (hn : l.names.Nodup) (hs : ∀ field ∈ l, IsJoined field.1)
      (h : ∀ field ∈ l, Readable field.2) : Readable (.obj l)

/-- The values in a phrase are read back, and so are the names. -/
def Phrase.Readable : Phrase → Prop
  | value v => Json.Readable v
  | items l => ∀ v ∈ l, Json.Readable v
  | fields l => ∀ field ∈ l, IsJoined field.1 ∧ Json.Readable field.2

theorem numberText_eq_cons (x : Binary64) : ∃ c u, numberText jsonWords x = c :: u ∧ IsStart c ∧
    c ≠ CodePoint.openBracket ∧ c ≠ CodePoint.openBrace := by
  cases x with
  | nan => exact ⟨_, _, rfl, by decide⟩
  | infinite negative => cases negative <;> exact ⟨_, _, rfl, by decide⟩
  | finite negative s e =>
    cases negative with
    | false =>
      obtain ⟨c, u, htext, hc⟩ := write_eq_cons numberStyle (Binary64.shortest s e).1
        (Binary64.shortest s e).2
      exact ⟨c, u, htext, isStart_digit hc, CodePoint.ne_of_isAsciiDigit hc (by decide),
        CodePoint.ne_of_isAsciiDigit hc (by decide)⟩
    | true => exact ⟨_, _, rfl, by decide⟩

theorem starts_printLeaf {v : Json} (h : Readable v) : Starts (printLeaf v) := by
  cases h with
  | null => exact ⟨_, _, rfl, by decide⟩
  | bool b => cases b <;> exact ⟨_, _, rfl, by decide⟩
  | int i => exact (spells_integer i).starts
  | float x =>
    obtain ⟨c, u, htext, hc, -⟩ := numberText_eq_cons x
    exact ⟨c, u, htext, hc⟩
  | str t => exact ⟨_, _, rfl, by decide⟩
  | arr l => exact ⟨_, _, rfl, by decide⟩
  | obj l => exact ⟨_, _, rfl, by decide⟩

/-- A value that holds no others is read from what is written of it. -/
theorem readsFrom_printLeaf {v : Json} (hv : Readable v) (h : IsLeaf v) :
    (Phrase.value v).ReadsFrom (printLeaf v) := by
  have hportable (hp : Portable v) : (Phrase.value v).ReadsFrom (printLeaf v) :=
    (spells_printLeaf hp h).readsFrom hp
  cases hv with
  | null => exact hportable .null
  | bool b => exact hportable (.bool b)
  | int i hi => exact hportable (.int i hi)
  | float x hx =>
    obtain ⟨c, u, htext, -, hc⟩ := numberText_eq_cons x
    exact readsFrom_leaf ⟨c, u, htext, hc⟩ fun rest hr => readLeaf_numberText hx hr
  | str t ht =>
    refine readsFrom_leaf ⟨_, _, rfl, by decide⟩ fun rest _ => ?_
    simpa [printLeaf, printText] using readLeaf_quotation (readText_printed ht rest)
  | arr l =>
    obtain rfl : l = [] := h
    exact hportable (.arr [] (by simp))
  | obj l =>
    obtain rfl : l = [] := h
    exact hportable (.obj [] (by simp [Fields.names]) (by simp) (by simp))

/-- What is written starts with no gap and closes nothing. -/
theorem Writes.starts {p : Phrase} {t : Text} (h : Writes p t) (hp : p.Readable) : Starts t := by
  induction h with
  | leaf h => exact starts_printLeaf hp
  | arr hg h ih => exact ⟨_, _, rfl, by decide⟩
  | lastItem h hg ih => exact ((ih (hp _ List.mem_cons_self)).append _).append _
  | item h hg ha hl ih ihl => exact ((ih (hp _ List.mem_cons_self)).append _).append _
  | obj hg h ih => exact ⟨_, _, rfl, by decide⟩
  | lastField name hg hb h ha ih => exact ⟨_, _, rfl, by decide⟩
  | field name hg hb h ha hx hl ih ihl => exact ⟨_, _, rfl, by decide⟩

/-- Each phrase is read from what is written of it. -/
theorem Writes.readsFrom {p : Phrase} {t : Text} (h : Writes p t) (hp : p.Readable) :
    p.ReadsFrom t := by
  have hprinted (name t : Text) : printText name ++ t =
      CodePoint.quotation :: (name.flatMap printCodePoint ++ CodePoint.quotation :: t) := by
    simp [printText]
  induction h with
  | leaf h => exact readsFrom_printLeaf hp h
  | arr hg h ih =>
    cases hp with
    | arr l hl => exact readsFrom_arr hg (h.starts hl) (ih hl)
  | lastItem h hg ih => exact readsFrom_lastItem (ih (hp _ List.mem_cons_self)) hg
  | item h hg ha hl ih ihl =>
    have hrest := fun w hw => hp w (List.mem_cons_of_mem _ hw)
    exact readsFrom_item (ih (hp _ List.mem_cons_self)) hg ha (hl.starts hrest) (ihl hrest)
  | obj hg h ih =>
    cases hp with
    | obj l hn hs hl =>
      have hfields := fun f hf => And.intro (hs f hf) (hl f hf)
      exact readsFrom_obj hg hn (h.starts hfields) (ih hfields)
  | lastField name hg hb h ha ih =>
    obtain ⟨hn, hv⟩ := hp _ List.mem_cons_self
    rw [hprinted]
    exact readsFrom_lastField (readText_printed hn) hg hb (h.starts hv) (ih hv) ha
  | field name hg hb h ha hx hl ih ihl =>
    obtain ⟨hn, hv⟩ := hp _ List.mem_cons_self
    have hrest := fun f hf => hp f (List.mem_cons_of_mem _ hf)
    rw [hprinted]
    exact readsFrom_field (readText_printed hn) hg hb (h.starts hv) (ih hv) ha hx (hl.starts hrest)
      (ihl hrest)

/-- A text that has the whole of a value in it, with gaps around, is read as that value. -/
theorem Writes.read {v : Json} {before t after : Text} (h : Writes (.value v) t) (hv : Readable v)
    (hb : IsGap before) (ha : IsGap after) : read (before ++ (t ++ after)) = .ok v :=
  read_of_readsFrom hb (h.starts hv) (h.readsFrom hv) ha

end StorageGateway.Json
