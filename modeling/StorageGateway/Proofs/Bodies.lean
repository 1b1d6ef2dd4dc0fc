import Mathlib.Data.List.Infix
import StorageGateway.Json.Decoding

/-! The bytes of a body. UTF-8 keeps what it is given: every text comes back from its bytes, and one
without surrogates also from a reading that replaces what it cannot read. Bytes that start in ASCII
and hold no zero are taken for UTF-8, since nothing in them tells of another encoding. Where all
bytes are blank there is no JSON. -/
namespace StorageGateway.Bytes

namespace Utf8

@[simp] theorem decodeFrom?_none_nil : decodeFrom? none [] = some [] := rfl

theorem decodeFrom?_cons (state : Option Owed) (b : UInt8) (bs : Bytes) :
    decodeFrom? state (b :: bs) =
      match state.elim (first true b.toNat) (next · b.toNat) with
      | .done c => (decodeFrom? none bs).map (c :: ·)
      | .more owed => decodeFrom? (some owed) bs
      | .refused => none := by
  cases state <;> rfl

/-- The last byte of a sequence. -/
theorem decodeFrom?_last {low high value b : Nat} (hlow : low ≤ b) (hhigh : b ≤ high)
    (hb : b < 256) (bs : Bytes) :
    decodeFrom? (some ⟨1, low, high, value⟩) (UInt8.ofNat b :: bs) =
      (decodeFrom? none bs).map (CodePoint.ofNat (value * 0x40 + (b - 0x80)) :: ·) := by
  have hn : (UInt8.ofNat b).toNat = b := by simp; omega
  simp [decodeFrom?_cons, next, hn, hlow, hhigh]

/-- A byte inside a sequence. -/
theorem decodeFrom?_inner {tails low high value b : Nat} (hlow : low ≤ b) (hhigh : b ≤ high)
    (hb : b < 256) (bs : Bytes) :
    decodeFrom? (some ⟨tails + 2, low, high, value⟩) (UInt8.ofNat b :: bs) =
      decodeFrom? (some ⟨tails + 1, 0x80, 0xBF, value * 0x40 + (b - 0x80)⟩) bs := by
  have hn : (UInt8.ofNat b).toNat = b := by simp; omega
  have ht : ¬ tails + 2 ≤ 1 := by omega
  simp [decodeFrom?_cons, next, hn, hlow, hhigh, ht]

theorem decodeFrom?_first {tails low high value b : Nat}
    (h : first true b = .more ⟨tails, low, high, value⟩) (hb : b < 256) (bs : Bytes) :
    decodeFrom? none (UInt8.ofNat b :: bs) = decodeFrom? (some ⟨tails, low, high, value⟩) bs := by
  have hn : (UInt8.ofNat b).toNat = b := by simp; omega
  simp [decodeFrom?_cons, hn, h]

theorem first_two {n : Nat} (h : 0x80 ≤ n) (h' : n < 0x800) :
    first true (0xC0 + n / 0x40) = .more ⟨1, 0x80, 0xBF, n / 0x40⟩ := by
  have h₁ : ¬ 0xC0 + n / 0x40 < 0x80 := by omega
  have h₂ : ¬ 0xC0 + n / 0x40 < 0xC2 := by omega
  have h₃ : 0xC0 + n / 0x40 < 0xE0 := by omega
  simp [first, h₁, h₂, h₃]

/-- The second byte lies within the bounds that the first one sets: they shut out no code point that
takes three bytes. -/
theorem first_three {n : Nat} (h : 0x800 ≤ n) (h' : n < 0x10000) :
    ∃ low high, first true (0xE0 + n / 0x1000) = .more ⟨2, low, high, n / 0x1000⟩ ∧
      low ≤ 0x80 + n / 0x40 % 0x40 ∧ 0x80 + n / 0x40 % 0x40 ≤ high := by
  have h₁ : ¬ 0xE0 + n / 0x1000 < 0x80 := by omega
  have h₂ : ¬ 0xE0 + n / 0x1000 < 0xC2 := by omega
  have h₃ : ¬ 0xE0 + n / 0x1000 < 0xE0 := by omega
  have h₄ : 0xE0 + n / 0x1000 < 0xF0 := by omega
  by_cases h₀ : n / 0x1000 = 0
  · exact ⟨0xA0, 0xBF, by simp [first, h₀], by omega, by omega⟩
  by_cases hd : n / 0x1000 = 0xD
  · exact ⟨0x80, 0xBF, by simp [first, hd], by omega, by omega⟩
  have he : ¬ 0xE0 + n / 0x1000 = 0xED := by omega
  exact ⟨0x80, 0xBF, by simp [first, h₁, h₂, h₃, h₄, h₀, he], by omega, by omega⟩

theorem first_four {n : Nat} (h : 0x10000 ≤ n) (h' : n < 0x110000) :
    ∃ low high, first true (0xF0 + n / 0x40000) = .more ⟨3, low, high, n / 0x40000⟩ ∧
      low ≤ 0x80 + n / 0x1000 % 0x40 ∧ 0x80 + n / 0x1000 % 0x40 ≤ high := by
  have hq : n / 0x40000 < 5 := by omega
  by_cases h₀ : n / 0x40000 = 0
  · exact ⟨0x90, 0xBF, by simp [first, h₀], by omega, by omega⟩
  by_cases h₄ : n / 0x40000 = 4
  · exact ⟨0x80, 0x8F, by simp [first, h₄], by omega, by omega⟩
  have hcases : n / 0x40000 = 1 ∨ n / 0x40000 = 2 ∨ n / 0x40000 = 3 := by omega
  refine ⟨0x80, 0xBF, ?_, by omega, by omega⟩
  rcases hcases with hq | hq | hq <;> simp [first, hq]

/-- The bytes of one code point are read as that code point, whatever follows. -/
theorem decodeFrom?_encodeCodePoint (c : CodePoint) (bs : Bytes) :
    decodeFrom? none (encodeCodePoint c ++ bs) = (decodeFrom? none bs).map (c :: ·) := by
  obtain ⟨n, hn⟩ := c
  have same {m : Nat} (hm : m = n) : CodePoint.ofNat m = ⟨n, hn⟩ := by
    subst hm; exact Fin.ext (CodePoint.val_ofNat_of_lt hn)
  simp only [encodeCodePoint]
  split
  · rename_i h
    have hb : (UInt8.ofNat n).toNat = n := by simp; omega
    simp [decodeFrom?_cons, hb, first, h, same]
  split
  · rename_i h h'
    simp only [List.cons_append, List.nil_append]
    rw [decodeFrom?_first (first_two (by omega) h') (by omega),
      decodeFrom?_last (by omega) (by omega) (by omega), same (by omega)]
  split
  · rename_i h h'
    obtain ⟨low, high, hf, hlow, hhigh⟩ := first_three (n := n) (by omega) h'
    simp only [List.cons_append, List.nil_append]
    rw [decodeFrom?_first hf (by omega), decodeFrom?_inner hlow hhigh (by omega),
      decodeFrom?_last (by omega) (by omega) (by omega), same (by omega)]
  · obtain ⟨low, high, hf, hlow, hhigh⟩ := first_four (n := n) (by omega) hn
    simp only [List.cons_append, List.nil_append]
    rw [decodeFrom?_first hf (by omega), decodeFrom?_inner hlow hhigh (by omega),
      decodeFrom?_inner (by omega) (by omega) (by omega),
      decodeFrom?_last (by omega) (by omega) (by omega), same (by omega)]

@[simp] theorem decode?_encode (t : Text) : decode? (encode t) = some t := by
  unfold decode? encode
  induction t with
  | nil => rfl
  | cons c t ih => simp [decodeFrom?_encodeCodePoint, ih]

/-- The bytes of a code point above ASCII lie above ASCII. -/
theorem mem_encodeCodePoint {c : CodePoint} {b : UInt8} (h : b ∈ encodeCodePoint c) :
    b.toNat = c.val ∨ 0x80 ≤ b.toNat := by
  have hc := c.isLt
  simp only [encodeCodePoint] at h
  split at h
  · simp only [List.mem_singleton] at h
    subst h
    left
    simp
    omega
  right
  split at h
  · simp only [List.mem_cons, List.not_mem_nil, or_false] at h
    rcases h with rfl | rfl <;> simp <;> omega
  split at h
  · simp only [List.mem_cons, List.not_mem_nil, or_false] at h
    rcases h with rfl | rfl | rfl <;> simp <;> omega
  · simp only [List.mem_cons, List.not_mem_nil, or_false] at h
    rcases h with rfl | rfl | rfl | rfl <;> simp <;> omega

theorem zero_not_mem_encode {t : Text} (h : ∀ c ∈ t, c.val ≠ 0) : 0 ∉ encode t := by
  intro hm
  obtain ⟨c, hc, hb⟩ := List.mem_flatMap.mp hm
  rcases mem_encodeCodePoint hb with h0 | h0
  · exact h c hc h0.symm
  · simp at h0

/-- A lossy reading shows something wherever there are bytes. -/
theorem decodeLossyFrom_owed_ne_nil (owed : Owed) (bs : Bytes) :
    decodeLossyFrom (some owed) bs ≠ [] := by
  induction bs generalizing owed with
  | nil => simp [decodeLossyFrom]
  | cons b bs ih =>
    simp only [decodeLossyFrom]
    split
    · simp
    · exact ih _
    · simp

theorem decodeLossy_ne_nil {bs : Bytes} (h : bs ≠ []) : decodeLossy bs ≠ [] := by
  cases bs with
  | nil => exact absurd rfl h
  | cons b bs =>
    simp only [decodeLossy, decodeLossyFrom]
    split
    · simp
    · exact decodeLossyFrom_owed_ne_nil _ bs
    · simp

/-! A reading that replaces also gives every text back, one with no surrogates in it. It goes along
with the strict reading until that is on the way to a surrogate. -/

/-- What is owed after the first byte of the surrogates, the next byte up to this bound. -/
def owedSurrogate (high : Nat) : Owed := ⟨2, 0x80, high, 0xD⟩

theorem next_owedSurrogate (high b : Nat) :
    next (owedSurrogate high) b = if 0x80 ≤ b ∧ b ≤ high then
      .more ⟨1, 0x80, 0xBF, 0xD * 0x40 + (b - 0x80)⟩ else .refused := rfl

/-- The step of a reading that admits surrogates or not. -/
def step (surrogates : Bool) (state : Option Owed) (b : Nat) : Step :=
  state.elim (first surrogates b) (next · b)

/-- Where a reading that replaces stands, and where the strict one does. -/
inductive Alongside : Option Owed → Option Owed → Prop where
  | same (state : Option Owed) : Alongside state state
  | surrogate : Alongside (some (owedSurrogate 0x9F)) (some (owedSurrogate 0xBF))

theorem decodeLossyFrom_of_done {state : Option Owed} {b : UInt8} {c : CodePoint}
    (h : step false state b.toNat = .done c) (bs : Bytes) :
    decodeLossyFrom state (b :: bs) = c :: decodeLossyFrom none bs := by
  cases state with
  | none =>
    have hf : first false b.toNat = .done c := h
    simp [decodeLossyFrom, hf]
  | some owed =>
    have hn : next owed b.toNat = .done c := h
    simp [decodeLossyFrom, hn]

theorem decodeLossyFrom_of_more {state : Option Owed} {b : UInt8} {owed : Owed}
    (h : step false state b.toNat = .more owed) (bs : Bytes) :
    decodeLossyFrom state (b :: bs) = decodeLossyFrom (some owed) bs := by
  cases state with
  | none =>
    have hf : first false b.toNat = .more owed := h
    simp [decodeLossyFrom, hf]
  | some old =>
    have hn : next old b.toNat = .more owed := h
    simp [decodeLossyFrom, hn]

theorem Alongside.done {lossy strict : Option Owed} (ha : Alongside lossy strict) {b : Nat}
    {c : CodePoint} (h : step true strict b = .done c) : step false lossy b = .done c := by
  cases ha with
  | same =>
    cases lossy with
    | some owed => exact h
    | none =>
      have hb : b ≠ 0xED := by rintro rfl; cases h
      simpa [step, first, hb] using h
  | surrogate =>
    change next (owedSurrogate 0xBF) b = .done c at h
    rw [next_owedSurrogate] at h
    split at h <;> cases h

/-- The readings part only where the strict one owes the last byte of a surrogate. -/
theorem Alongside.more {lossy strict : Option Owed} (ha : Alongside lossy strict) {b : Nat}
    {owed : Owed} (h : step true strict b = .more owed) :
    (∃ other, step false lossy b = .more other ∧ Alongside (some other) (some owed)) ∨
      ∃ value, 0x360 ≤ value ∧ value < 0x380 ∧ owed = ⟨1, 0x80, 0xBF, value⟩ := by
  cases ha with
  | same =>
    left
    cases lossy with
    | some old => exact ⟨owed, h, .same _⟩
    | none =>
      by_cases hb : b = 0xED
      · subst hb
        cases h
        exact ⟨_, rfl, .surrogate⟩
      · exact ⟨owed, by simpa [step, first, hb] using h, .same _⟩
  | surrogate =>
    change next (owedSurrogate 0xBF) b = .more owed at h
    rw [next_owedSurrogate] at h
    split at h
    · rename_i hbound
      cases h
      by_cases hb : b ≤ 0x9F
      · refine .inl ⟨_, ?_, .same _⟩
        change next (owedSurrogate 0x9F) b = _
        rw [next_owedSurrogate, if_pos ⟨hbound.1, hb⟩]
      · exact .inr ⟨_, by omega, by omega, rfl⟩
    · cases h

/-- The last byte of a surrogate ends in one. -/
theorem exists_surrogate {value : Nat} {bs : Bytes} {t : Text} (hlow : 0x360 ≤ value)
    (hhigh : value < 0x380) (h : decodeFrom? (some ⟨1, 0x80, 0xBF, value⟩) bs = some t) :
    ∃ c ∈ t, c.isSurrogate = true := by
  cases bs with
  | nil => cases h
  | cons b bs =>
    simp only [decodeFrom?_cons, Option.elim, next] at h
    by_cases hb : 0x80 ≤ b.toNat ∧ b.toNat ≤ 0xBF
    · rw [if_pos hb, if_pos (le_refl 1)] at h
      obtain ⟨rest, -, rfl⟩ := Option.map_eq_some_iff.mp h
      have hn : value * 0x40 + (b.toNat - 0x80) < 0x110000 := by omega
      refine ⟨_, List.mem_cons_self, ?_⟩
      simp only [CodePoint.isSurrogate, CodePoint.val_ofNat_of_lt hn, Bool.and_eq_true,
        decide_eq_true_eq]
      omega
    · rw [if_neg hb] at h
      cases h

theorem decodeLossyFrom_of_decodeFrom? {bs : Bytes} {lossy strict : Option Owed} {t : Text}
    (ha : Alongside lossy strict) (h : decodeFrom? strict bs = some t)
    (ht : ∀ c ∈ t, c.isSurrogate = false) : decodeLossyFrom lossy bs = t := by
  induction bs generalizing lossy strict t with
  | nil =>
    cases ha with
    | same =>
      cases lossy with
      | none => cases h; rfl
      | some owed => cases h
    | surrogate => cases h
  | cons b bs ih =>
    rw [decodeFrom?_cons] at h
    change (match step true strict b.toNat with
      | .done c => (decodeFrom? none bs).map (c :: ·)
      | .more owed => decodeFrom? (some owed) bs
      | .refused => none) = some t at h
    cases hs : step true strict b.toNat with
    | done c =>
      rw [hs] at h
      obtain ⟨rest, hr, rfl⟩ := Option.map_eq_some_iff.mp h
      rw [decodeLossyFrom_of_done (ha.done hs),
        ih (.same none) hr fun d hd => ht d (List.mem_cons_of_mem c hd)]
    | more owed =>
      rw [hs] at h
      obtain ⟨other, ho, hother⟩ | ⟨value, hlow, hhigh, rfl⟩ := ha.more hs
      · rw [decodeLossyFrom_of_more ho]
        exact ih hother h ht
      · obtain ⟨c, hc, hsurrogate⟩ := exists_surrogate hlow hhigh h
        rw [ht c hc] at hsurrogate
        cases hsurrogate
    | refused => rw [hs] at h; cases h

theorem decodeLossy_encode {t : Text} (h : ∀ c ∈ t, c.isSurrogate = false) :
    decodeLossy (encode t) = t :=
  decodeLossyFrom_of_decodeFrom? (.same none) (decode?_encode t) h

/-! Texts and bytes of ASCII. -/

theorem encode_of_ascii {t : Text} (h : ∀ c ∈ t, c.val < 0x80) : encode t = ofAscii t := by
  induction t with
  | nil => rfl
  | cons c t ih =>
    have hc : c.val < 0x80 := h c (by simp)
    have ht := ih fun d hd => h d (by simp [hd])
    unfold encode at ht ⊢
    simp [encodeCodePoint, hc, ht, ofAscii]

theorem decode?_of_ascii {bs : Bytes} (h : ∀ b ∈ bs, b.toNat < 0x80) :
    decode? bs = some (latin1Text bs) := by
  have hbs : encode (latin1Text bs) = bs := by
    rw [encode_of_ascii]
    · have same : (fun c : CodePoint => UInt8.ofNat c.val) ∘ codePoint = id := by
        funext b
        simp [codePoint]
      simp [ofAscii, latin1Text, same]
    · intro c hc
      obtain ⟨b, hb, rfl⟩ := List.mem_map.mp hc
      exact h b hb
  have hd := decode?_encode (latin1Text bs)
  rwa [hbs] at hd

end Utf8

theorem toNat_of_isBlank {bs : Bytes} (h : isBlank bs = true) {b : UInt8} (hb : b ∈ bs) :
    (0x09 ≤ b.toNat ∧ b.toNat ≤ 0x0D) ∨ b.toNat = 0x20 := by
  have hbyte := List.all_eq_true.mp h b hb
  simp only [isBlankByte, Bool.or_eq_true, Bool.and_eq_true, decide_eq_true_eq, beq_iff_eq] at hbyte
  rcases hbyte with ⟨hlow, hhigh⟩ | rfl
  · exact .inl ⟨UInt8.le_iff_toNat_le.mp hlow, UInt8.le_iff_toNat_le.mp hhigh⟩
  · exact .inr rfl

end Bytes

namespace Json

open Bytes

/-- Without a mark and without zeros there is nothing that tells of another encoding. -/
theorem decodeBytes?_of_plain {b : UInt8} {bs : Bytes} (hb : b.toNat < 0x80) (h0 : 0 ∉ b :: bs) :
    decodeBytes? (b :: bs) = Utf8.decode? (b :: bs) := by
  have mark (m : UInt8) (rest : Bytes) (hm : m = 0 ∨ 0x80 ≤ m.toNat) :
      List.isPrefixOf? (m :: rest) (b :: bs) = none := by
    have hne : m ≠ b := by
      rintro rfl
      rcases hm with rfl | hm
      · simp at h0
      · omega
    simp [List.isPrefixOf?, hne]
  have h₁ := mark 0x00 [0x00, 0xFE, 0xFF] (.inl rfl)
  have h₂ := mark 0xFF [0xFE, 0x00, 0x00] (.inr (by decide))
  have h₃ := mark 0xFE [0xFF] (.inr (by decide))
  have h₄ := mark 0xFF [0xFE] (.inr (by decide))
  have h₅ : List.isPrefixOf? Utf8.byteOrderMark (b :: bs) = none := mark _ _ (.inr (by decide))
  simp only [decodeBytes?, h₁, h₂, h₃, h₄, h₅]
  simp only [List.mem_cons, not_or] at h0
  rcases bs with _ | ⟨c, _ | ⟨d, _ | ⟨e, rest⟩⟩⟩
  · rfl
  · grind
  · rfl
  · grind

/-- Text that starts in ASCII and holds no zero is read from its UTF-8 bytes. -/
theorem decodeBytes?_encode {c : CodePoint} {t : Text} (hc : c.val < 0x80)
    (h0 : ∀ d ∈ c :: t, d.val ≠ 0) : decodeBytes? (Utf8.encode (c :: t)) = some (c :: t) := by
  have hz := Utf8.zero_not_mem_encode h0
  have hcons : Utf8.encode (c :: t) = UInt8.ofNat c.val :: Utf8.encode t := by
    simp [Utf8.encode, Utf8.encodeCodePoint, hc]
  rw [hcons] at hz ⊢
  rw [decodeBytes?_of_plain (by simp; omega) hz, ← hcons, Utf8.decode?_encode]

/-- No word stands in front of a text that differs from all of them in one place. -/
theorem takeWord_eq_none {t : Text} (i : Nat) (p : CodePoint → Bool)
    (hp : wordValues.all (fun w => w.1[i]?.any p) = true)
    (ht : ∀ c, t[i]? = some c → p c = false) : takeWord t = none := by
  unfold takeWord
  rw [List.findSome?_eq_none_iff]
  rintro ⟨word, v⟩ hw
  rw [Option.map_eq_none_iff, Option.eq_none_iff_forall_ne_some]
  intro rest hrest
  rw [List.isPrefixOf?_eq_some_iff_append_eq] at hrest
  obtain ⟨d, hd, hpd⟩ := (Option.any_eq_true p _).mp (List.all_eq_true.mp hp _ hw)
  have hi : i < word.length := (List.getElem?_eq_some_iff.mp hd).1
  have hdt : t[i]? = some d := by rw [← hrest, List.getElem?_append_left hi, hd]
  rw [ht d hdt] at hpd
  cases hpd

/-- No value starts with a control or a blank. -/
theorem readValue_of_low {c : CodePoint} (hc : c.val ≤ 0x20) (fuel : Nat) (t : Text)
    (r : Json × Text) : readValue fuel (c :: t) ≠ .ok r := by
  have hne {d : CodePoint} (hd : 0x20 < d.val) : c ≠ d := fun h => by subst h; omega
  have hword : takeWord (c :: t) = none :=
    takeWord_eq_none 0 (fun d => 0x20 < d.val) (by decide) (by simpa using hc)
  have hdigit : c.isAsciiDigit = false := by
    simp [CodePoint.isAsciiDigit]
    omega
  cases fuel with
  | zero => intro h; cases h
  | succ fuel =>
    have h₁ : c ≠ CodePoint.openBracket := hne (by decide)
    have h₂ : c ≠ CodePoint.openBrace := hne (by decide)
    have h₃ : c ≠ CodePoint.quotation := hne (by decide)
    have h₄ : c ≠ CodePoint.hyphen := hne (by decide)
    have h₅ : c ≠ 0x30 := hne (by decide)
    simp [readValue, readLeaf, h₁, h₂, h₃, h₄, hword, readUnsigned, takeWhole, h₅, hdigit]

theorem readWhole_of_low {t : Text} (h : ∀ c ∈ t, c.val ≤ 0x20) (v : Json) :
    readWhole t ≠ .ok v := by
  unfold readWhole
  cases hr : readValue (2 * t.length + 2) (skipGap t) with
  | error stop => intro hv; cases hv
  | ok r =>
    cases ht : skipGap t with
    | nil =>
      rw [ht] at hr
      cases hr
    | cons c u =>
      have hc : c ∈ t := List.dropWhile_subset isGap (by rw [skipGap] at ht; simp [ht])
      rw [ht] at hr
      exact absurd hr (readValue_of_low (h c hc) _ u r)

theorem decodeBytes?_of_isBlank {bs : Bytes} (h : isBlank bs = true) :
    decodeBytes? bs = some (latin1Text bs) := by
  have hlow : ∀ b ∈ bs, b.toNat < 0x80 := fun b hb => by have := toNat_of_isBlank h hb; omega
  cases bs with
  | nil => rfl
  | cons b bs =>
    rw [decodeBytes?_of_plain (hlow b (by simp)), Utf8.decode?_of_ascii hlow]
    intro h0
    have := toNat_of_isBlank h h0
    simp at this

/-- Blank bytes hold no value. -/
theorem isBlank_of_readBytes {bs : Bytes} {v : Json} (h : readBytes bs = .ok v) :
    isBlank bs = false := by
  cases hblank : isBlank bs with
  | false => rfl
  | true =>
    have hlow : ∀ c ∈ latin1Text bs, c.val ≤ 0x20 := by
      intro c hc
      obtain ⟨b, hb, rfl⟩ := List.mem_map.mp hc
      have := toNat_of_isBlank hblank hb
      simp only [codePoint]
      omega
    unfold readBytes at h
    rw [decodeBytes?_of_isBlank hblank] at h
    cases hw : readWhole (latin1Text bs) with
    | ok w => exact absurd hw (readWhole_of_low hlow w)
    | error stop => simp [hw, Except.mapError] at h

end Json

end StorageGateway
