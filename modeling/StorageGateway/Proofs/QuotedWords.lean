import StorageGateway.Proofs.Bodies
import StorageGateway.Proofs.Json.Writing
import StorageGateway.Proofs.Replies
import StorageGateway.Proofs.Trimming

/-! Words that come in the quotes of JSON. A bare word is read without its quotes and without looking
at what is escaped, so a string is read back as long as it needs no escape: all of it is printable
ASCII without quotation marks and backslashes. Any other string comes back longer than it was. -/
namespace StorageGateway

namespace Json

/-- What is between the quotes. -/
def escaped (t : Text) : Text := t.flatMap printCodePoint

/-- A code point that needs no escape. -/
def IsBare (c : CodePoint) : Prop :=
  0x20 ≤ c.val ∧ c.val ≤ 0x7E ∧ c ≠ CodePoint.quotation ∧ c ≠ CodePoint.backslash

instance decidableIsBare (c : CodePoint) : Decidable (IsBare c) := instDecidableAnd

theorem isBare_space : IsBare CodePoint.space := by decide

theorem print_str (t : Text) :
    print (.str t) = CodePoint.quotation :: (escaped t ++ [CodePoint.quotation]) := rfl

@[simp] theorem escaped_append (s t : Text) : escaped (s ++ t) = escaped s ++ escaped t :=
  List.flatMap_append

theorem printCodePoint_of_bare {c : CodePoint} (h : IsBare c) : printCodePoint c = [c] := by
  obtain ⟨hlow, hhigh, hq, hb⟩ := h
  rw [printCodePoint, if_neg hq, if_neg hb, if_pos ⟨hlow, hhigh⟩]

/-- An escape takes two code points at least: a backslash stands in front. -/
theorem two_le_length_printCodePoint {c : CodePoint} (h : ¬ IsBare c) :
    2 ≤ (printCodePoint c).length := by
  fun_cases printCodePoint c with
  | case3 hq hb hplain => exact absurd ⟨hplain.1, hplain.2, hq, hb⟩ h
  | case9 => simp [unitEscape, Text.ofString]
  | case10 => simp [unitEscape, Text.ofString]
  | _ => decide

theorem length_le_escaped (t : Text) : t.length ≤ (escaped t).length := by
  induction t with
  | nil => exact Nat.le_refl 0
  | cons c t ih =>
    have hc : 1 ≤ (printCodePoint c).length := by
      by_cases h : IsBare c
      · rw [printCodePoint_of_bare h]; exact Nat.le_refl 1
      · exact Nat.le_of_succ_le (two_le_length_printCodePoint h)
    simp only [escaped, List.flatMap_cons, List.length_append, List.length_cons] at ih ⊢
    omega

theorem escaped_of_bare {t : Text} (h : ∀ c ∈ t, IsBare c) : escaped t = t := by
  induction t with
  | nil => rfl
  | cons c t ih =>
    have ht := ih fun d hd => h d (List.mem_cons_of_mem c hd)
    unfold escaped at ht ⊢
    rw [List.flatMap_cons, printCodePoint_of_bare (h c List.mem_cons_self), ht]
    rfl

/-- One escape is enough to make the text longer, since nothing else makes it shorter. -/
theorem length_lt_escaped {t : Text} {c : CodePoint} (hc : c ∈ t) (h : ¬ IsBare c) :
    t.length < (escaped t).length := by
  obtain ⟨left, right, rfl⟩ := List.append_of_mem hc
  have hescape := two_le_length_printCodePoint h
  have hleft := length_le_escaped left
  have hright := length_le_escaped right
  rw [escaped_append, show escaped (c :: right) = printCodePoint c ++ escaped right from rfl]
  simp only [List.length_append, List.length_cons]
  omega

theorem escaped_eq_iff (t : Text) : escaped t = t ↔ ∀ c ∈ t, IsBare c := by
  refine ⟨fun h c hc => ?_, escaped_of_bare⟩
  by_contra hn
  have hlt := length_lt_escaped hc hn
  rw [h] at hlt
  exact Nat.lt_irrefl _ hlt

/-- A word is what the JSON text of a string has between its quotes. It is the string if and only if
that is printable ASCII without quotation marks and backslashes, and longer otherwise. Blanks at the
ends of the string are in it. -/
structure IsBetweenQuotes (s word : Text) : Prop where
  text : print (.str s) = CodePoint.quotation :: (word ++ [CodePoint.quotation])
  same_iff : word = s ↔ ∀ c ∈ s, IsBare c
  longer : word ≠ s → s.length < word.length
  blanks : ∀ left inner right, (∀ c ∈ left ++ right, c = CodePoint.space) →
    s = left ++ inner ++ right → ∃ core, word = left ++ core ++ right ∧
      print (.str inner) = CodePoint.quotation :: (core ++ [CodePoint.quotation])

theorem isBetweenQuotes_escaped (s : Text) : IsBetweenQuotes s (escaped s) := by
  refine { text := print_str s, same_iff := escaped_eq_iff s, longer := ?_, blanks := ?_ }
  · intro hne
    have hbare : ¬ ∀ c ∈ s, IsBare c := fun h => hne (escaped_of_bare h)
    obtain ⟨c, hm, hn⟩ := not_forall₂.mp hbare
    exact length_lt_escaped hm hn
  · rintro left inner right hspace rfl
    have hleft : escaped left = left := escaped_of_bare fun c hm => by
      rw [hspace c (List.mem_append_left _ hm)]
      exact isBare_space
    have hright : escaped right = right := escaped_of_bare fun c hm => by
      rw [hspace c (List.mem_append_right _ hm)]
      exact isBare_space
    exact ⟨escaped inner, by simp [hleft, hright], print_str inner⟩

theorem not_isSurrogate_of_mem_print {s : Text} {c : CodePoint} (h : c ∈ print (.str s)) :
    c.isSurrogate = false := by
  have hascii : c.val < 0x80 := (isPlain_printText s).isAscii c h
  simp only [CodePoint.isSurrogate, Bool.and_eq_false_iff, decide_eq_false_iff_not]
  omega

end Json

theorem CodePoint.not_isSurrogate_of_isBlank {c : CodePoint} (h : c.isBlank = true) :
    c.isSurrogate = false := by
  simp only [CodePoint.isBlank, Bool.or_eq_true, Bool.and_eq_true, decide_eq_true_eq,
    beq_iff_eq] at h
  simp only [CodePoint.isSurrogate, Bool.and_eq_false_iff, decide_eq_false_iff_not]
  omega

namespace Reply

/-- Quotes that white space surrounds are all that a word loses. -/
theorem unquoted_enclosed {before t after : Text} (hb : ∀ c ∈ before, c.isBlank = true)
    (ha : ∀ c ∈ after, c.isBlank = true) :
    unquoted (before ++ (CodePoint.quotation :: (t ++ [CodePoint.quotation]) ++ after)) = t := by
  have hend : Text.EndsOutside CodePoint.isBlank
      (CodePoint.quotation :: (t ++ [CodePoint.quotation])) := by
    intro c hc
    rw [← List.cons_append, List.getLast?_concat] at hc
    cases hc
    rfl
  have htrim : Text.trim (before ++ (CodePoint.quotation :: (t ++ [CodePoint.quotation]) ++
      after)) = CodePoint.quotation :: (t ++ [CodePoint.quotation]) := by
    rw [Text.trim_enclosed hb (fun c hc => by cases hc; rfl) ha]
    exact Text.dropEndWhile_of_endsOutside hend
  rw [unquoted, htrim]
  change Text.withoutTrailing [CodePoint.quotation] (Text.withoutLeading [CodePoint.quotation]
    ([CodePoint.quotation] ++ (t ++ [CodePoint.quotation]))) = t
  rw [Text.withoutLeading_append_self, Text.withoutTrailing_append_self]

/-- Without a declared name a body is in UTF-8, too. -/
theorem named?_charsetName {r : Reply}
    (hc : ∀ name, r.charset = some name → Bytes.Charset.named? name = some .utf8) :
    Bytes.Charset.named? r.charsetName = some .utf8 := by
  have hdefault : Bytes.Charset.named? "utf-8" = some .utf8 := by decide +kernel
  unfold charsetName
  cases hr : r.charset with
  | none => exact hdefault
  | some name =>
    by_cases hname : name = []
    · rw [hname]
      exact hdefault
    · simpa [Option.filter, hname] using hc name hr

theorem scalar_of_utf8 (codecs : Bytes.Codecs) {r : Reply} {t : Text}
    (hs : isSuccess r.status = true) (hw : r.broken = none)
    (hc : ∀ name, r.charset = some name → Bytes.Charset.named? name = some .utf8)
    (ht : ∀ c ∈ t, c.isSurrogate = false) (hb : r.body = Bytes.Utf8.encode t) :
    r.scalar codecs = .ok (unquoted t) := by
  unfold scalar
  rw [content_of_success hs hw]
  change (r.decodedText codecs r.body).map unquoted = _
  rw [decodedText, codecs.decode_utf8 (named?_charsetName hc), hb,
    Bytes.Utf8.decodeLossy_encode ht]
  rfl

/-- A body that holds the JSON text of a string, and white space around it, is read as what stands
between the quotes, whatever the string. -/
theorem scalar_of_printed (codecs : Bytes.Codecs) {r : Reply} {s before after : Text}
    (hs : isSuccess r.status = true) (hw : r.broken = none)
    (hc : ∀ name, r.charset = some name → Bytes.Charset.named? name = some .utf8)
    (hb : ∀ c ∈ before, c.isBlank = true) (ha : ∀ c ∈ after, c.isBlank = true)
    (hbody : r.body = Bytes.Utf8.encode (before ++ (Json.print (.str s) ++ after))) :
    ∃ word, r.scalar codecs = .ok word ∧ Json.IsBetweenQuotes s word := by
  have hscalar : ∀ c ∈ before ++ (Json.print (.str s) ++ after), c.isSurrogate = false := by
    intro c hm
    rcases List.mem_append.mp hm with hm | hm
    · exact CodePoint.not_isSurrogate_of_isBlank (hb c hm)
    rcases List.mem_append.mp hm with hm | hm
    · exact Json.not_isSurrogate_of_mem_print hm
    · exact CodePoint.not_isSurrogate_of_isBlank (ha c hm)
  refine ⟨Json.escaped s, ?_, Json.isBetweenQuotes_escaped s⟩
  rw [scalar_of_utf8 codecs hs hw hc hscalar hbody, Json.print_str]
  exact congrArg Except.ok (unquoted_enclosed hb ha)

/-- A name with blanks at its ends and a letter that is escaped. -/
def accentedName : Text := [0x20, 0x63, 0xE9, 0x20]

def accentedReply : Reply where
  status := 200
  charset := some "utf-8"
  body := Bytes.Utf8.encode ([0x3000] ++ (Json.print (.str accentedName) ++ [CodePoint.newline]))

theorem scalar_of_accentedReply :
    isSuccess accentedReply.status = true ∧ accentedReply.broken = none ∧
    (∀ name, accentedReply.charset = some name → Bytes.Charset.named? name = some .utf8) ∧
    (∀ c ∈ [(0x3000 : CodePoint)], c.isBlank = true) ∧
    (∀ c ∈ [CodePoint.newline], c.isBlank = true) ∧
    ∃ word, accentedReply.scalar .listed = .ok word ∧ Json.IsBetweenQuotes accentedName word := by
  have hc : ∀ name, accentedReply.charset = some name →
      Bytes.Charset.named? name = some .utf8 := by
    rintro name ⟨⟩
    decide +kernel
  have hb : ∀ c ∈ [(0x3000 : CodePoint)], c.isBlank = true :=
    List.forall_mem_singleton.mpr (by decide)
  have ha : ∀ c ∈ [CodePoint.newline], c.isBlank = true :=
    List.forall_mem_singleton.mpr (by decide)
  exact ⟨rfl, rfl, hc, hb, ha, scalar_of_printed .listed rfl rfl hc hb ha rfl⟩

end Reply

end StorageGateway
