import StorageGateway.Binary64.Reading
import StorageGateway.Proofs.Binary64.Digits
import StorageGateway.Proofs.Json.Reading
import StorageGateway.Proofs.Trimming

/-! An integer that was written in decimal is read as the number nearest to it, like the integer
itself. Nothing that the reader takes off or joins occurs in its text. -/
namespace StorageGateway

/-- What the reader of numbers leaves as it is, wherever it stands. -/
structure CodePoint.IsBare (c : CodePoint) : Prop where
  ascii : c.isAscii = true
  solid : c.isBlank = false
  joint : c ≠ CodePoint.underscore

theorem CodePoint.isBare_of_isAsciiDigit {c : CodePoint} (h : c.isAsciiDigit = true) :
    c.IsBare where
  ascii := by
    simp only [isAsciiDigit, isAscii, Bool.and_eq_true, decide_eq_true_eq] at h ⊢
    omega
  solid := by
    simp only [isAsciiDigit, Bool.and_eq_true, decide_eq_true_eq] at h
    simp only [isBlank, Bool.or_eq_false_iff, Bool.and_eq_false_iff, decide_eq_false_iff_not,
      beq_eq_false_iff_ne]
    omega
  joint := ne_of_isAsciiDigit h (by decide)

theorem Decimal.isBare_of_mem_integer {k : ℤ} {c : CodePoint} (h : c ∈ integer k) : c.IsBare := by
  rcases List.mem_append.mp h with hsign | hnat
  · obtain rfl : c = CodePoint.hyphen := by
      unfold sign at hsign
      split at hsign
      · exact List.mem_singleton.mp hsign
      · cases hsign
    exact ⟨by decide, by decide, by decide⟩
  · exact CodePoint.isBare_of_isAsciiDigit (isDigit_of_mem_natural hnat)

namespace Binary64

section Bare

variable {t : Text} (h : ∀ c ∈ t, c.IsBare)
include h

theorem plainDigits_of_bare : plainDigits t = t := by
  refine (List.map_congr_left fun c hc => ?_).trans (List.map_id t)
  rw [if_pos (h c hc).ascii]
  rfl

theorem trimmed_of_bare : Text.dropEndWhile isMargin (t.dropWhile isMargin) = t := by
  have hmargin (c : CodePoint) (hc : c ∈ t) : isMargin c = false := by
    rw [isMargin, (h c hc).solid, Bool.false_and]
  have hstart : t.dropWhile isMargin = t := by
    cases t with
    | nil => rfl
    | cons c t => exact List.dropWhile_cons_of_neg (by simp [hmargin c List.mem_cons_self])
  rw [hstart, Text.dropEndWhile_of_endsOutside (.of_forall hmargin)]

theorem joinDigits?_of_bare (afterDigit : Bool) : joinDigits? afterDigit t = some t := by
  induction t generalizing afterDigit with
  | nil => rfl
  | cons c t ih =>
    obtain ⟨hc, ht⟩ := List.forall_mem_cons.mp h
    rw [joinDigits?.eq_def]
    simp only [hc.joint, if_false, ih ht, Option.map_some]

/-- A text of a number that starts with a digit is read from there on, with the sign before it. -/
theorem read?_of_bare {negative : Bool} {c : CodePoint} {u : Text}
    (hs : takeSign t = (negative, c :: u)) (hc : c.isAsciiDigit = true) :
    read? t = readUnsigned? negative (c :: u) := by
  have hlower : c.asciiLower = c := by
    simp only [CodePoint.isAsciiDigit, Bool.and_eq_true, decide_eq_true_eq] at hc
    exact if_neg (by omega)
  have hletter (d : CodePoint) (hd : d.isAsciiDigit = false) (v : Text) :
      (c :: u).map CodePoint.asciiLower ≠ d :: v := by
    rw [List.map_cons, hlower]
    intro heq
    exact CodePoint.ne_of_isAsciiDigit hc hd (List.cons.inj heq).1
  have hinf := hletter 0x69 (by decide)
  have hnan := hletter 0x6E (by decide)
  unfold read?
  rw [plainDigits_of_bare h, trimmed_of_bare h]
  simp only [joinDigits?_of_bare h, Option.bind_eq_bind, Option.bind_some, hs]
  rw [if_neg, if_neg]
  · exact hnan _
  · exact not_or.mpr ⟨hinf _, hinf _⟩

end Bare

theorem readUnsigned?_digits (negative : Bool) {t : Text} (hne : t ≠ [])
    (hd : ∀ c ∈ t, c.isAsciiDigit = true) :
    readUnsigned? negative t = some (ofDecimal negative t.digitsValue 0) := by
  have htake := List.takeWhile_eq_self_iff.mpr hd
  have hdrop := List.dropWhile_eq_nil_iff.mpr hd
  simp [readUnsigned?, htake, hdrop, hne, readExponent?]

theorem sign_of_pack_eq_infinite {negative sign : Bool} {significand : ℕ} {exponent : ℤ}
    (h : pack negative significand exponent = infinite sign) : sign = negative := by
  unfold pack at h
  split at h
  · split at h
    · cases h
    · exact (infinite.inj h).symm
  · split at h
    · cases h
    · exact (infinite.inj h).symm

/-- An integer of more digits than there may be before the point is out of range. -/
theorem ofRatio_of_long (negative : Bool) {n : ℕ} (hn : 10 ^ 310 ≤ n) :
    ofRatio negative n 1 = infinite negative := by
  have hbound : integerBound ≤ 10 ^ 310 := by decide +kernel
  have hzero : n ≠ 0 := by
    rintro rfl
    exact absurd hn (by norm_num)
  obtain ⟨sign, hsign⟩ := (ofRatio_one_eq_infinite_iff negative hzero).mpr (hbound.trans hn)
  rw [hsign]
  rw [ofRatio_one negative hzero] at hsign
  rw [sign_of_pack_eq_infinite hsign]

theorem ofDecimal_integer (negative : Bool) (n : ℕ) :
    ofDecimal negative n 0 = ofRatio negative n 1 := by
  have hlen := Nat.length_toDigits_le_iff (b := 10) (n := n) (k := 310) (by decide) (by decide)
  unfold ofDecimal mostIntegerDigits mostLeadingZeros
  dsimp only
  by_cases hzero : n = 0
  · simp [ofRatio, hzero]
  · by_cases hlong : 10 ^ 310 ≤ n
    · rw [if_neg hzero, if_pos (by omega), ofRatio_of_long negative hlong]
    · rw [if_neg hzero, if_neg (by omega), if_neg (by omega)]
      simp

/-- The text of an integer is read as the number nearest to it, however long it is. -/
theorem read?_integer (k : ℤ) :
    read? (Decimal.integer k) = some (ofRatio (k < 0) k.natAbs 1) := by
  obtain ⟨c, u, hnat, hc⟩ := Decimal.natural_eq_cons k.natAbs
  have hsign : takeSign (Decimal.integer k) = (decide (k < 0), Decimal.natural k.natAbs) := by
    unfold Decimal.integer Decimal.sign
    rw [hnat]
    by_cases hneg : k < 0
    · simp only [hneg, decide_true, if_true]
      rfl
    · have hminus := CodePoint.ne_of_isAsciiDigit hc (d := 0x2D) (by decide)
      have hplus := CodePoint.ne_of_isAsciiDigit hc (d := 0x2B) (by decide)
      simp [hneg, takeSign, hminus, hplus]
  rw [read?_of_bare (fun _ => Decimal.isBare_of_mem_integer) (hnat ▸ hsign) hc, ← hnat,
    readUnsigned?_digits _ (Decimal.natural_ne_nil _) fun _ => Decimal.isDigit_of_mem_natural,
    Decimal.digitsValue_natural, ofDecimal_integer]

end Binary64

end StorageGateway
