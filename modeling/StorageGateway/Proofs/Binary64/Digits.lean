import StorageGateway.Proofs.Binary64.Nearest

/-! The shortest decimal of a number is one of the rationals that are rounded to it. The search for it
succeeds with seventeen digits at the latest, since by then the grid is finer than the room around
the number. -/
namespace StorageGateway.Binary64

namespace Interval

variable (i : Interval) (x : ℕ) (k : ℤ)

theorem overPowerOfTen_pos : 0 < (i.overPowerOfTen x k).2 :=
  Nat.mul_pos (Nat.pow_pos (by decide)) (Nat.pow_pos (by decide))

theorem overPowerOfTen_ratio :
    ((i.overPowerOfTen x k).1 : ℚ) / (i.overPowerOfTen x k).2 = x * 2 ^ i.unit / 10 ^ k := by
  unfold overPowerOfTen
  rw [zpow_eq_div (by norm_num : (2 : ℚ) ≠ 0), zpow_eq_div (by norm_num : (10 : ℚ) ≠ 0)]
  simp only [Nat.pow_eq]
  push_cast
  field_simp

/-- The integer comparisons of an end of the interval with a point of a decimal grid. -/
theorem overPowerOfTen_compare (d : ℕ) :
    ((i.overPowerOfTen x k).1 < d * (i.overPowerOfTen x k).2 ↔
        (x : ℚ) * 2 ^ i.unit < d * 10 ^ k) ∧
      (d * (i.overPowerOfTen x k).2 < (i.overPowerOfTen x k).1 ↔
        (d : ℚ) * 10 ^ k < x * 2 ^ i.unit) := by
  have hden : (0 : ℚ) < (i.overPowerOfTen x k).2 := by exact_mod_cast i.overPowerOfTen_pos x k
  have hp : (0 : ℚ) < 10 ^ k := by positivity
  have hratio := i.overPowerOfTen_ratio x k
  rw [← div_lt_iff₀ hp, ← lt_div_iff₀ hp, ← hratio, div_lt_iff₀ hden, lt_div_iff₀ hden]
  exact_mod_cast And.intro Iff.rfl Iff.rfl

theorem holds_iff (d : ℕ) : i.holds d k = true ↔ i.Has (d * 10 ^ k) := by
  obtain ⟨hlow, hlow'⟩ := i.overPowerOfTen_compare i.low k d
  obtain ⟨hhigh', hhigh⟩ := i.overPowerOfTen_compare i.high k d
  have hden : (i.overPowerOfTen i.high k).2 = (i.overPowerOfTen i.low k).2 := rfl
  rw [hden] at hhigh hhigh'
  have hhas : i.Has (d * 10 ^ k) ↔ (i.low * 2 ^ i.unit < (d : ℚ) * 10 ^ k ∨
      i.low * 2 ^ i.unit = (d : ℚ) * 10 ^ k ∧ i.closed = true) ∧
      ((d : ℚ) * 10 ^ k < i.high * 2 ^ i.unit ∨
        (d : ℚ) * 10 ^ k = i.high * 2 ^ i.unit ∧ i.closed = true) :=
    ⟨fun h => ⟨h.low, h.high⟩, fun h => ⟨h.1, h.2⟩⟩
  unfold holds
  dsimp only
  cases hc : i.closed with
  | true =>
    rw [if_pos rfl, Bool.and_eq_true, decide_eq_true_eq, decide_eq_true_eq, hhas, hc,
      ← not_lt, ← not_lt, hlow', hhigh']
    simp only [and_true, ← le_iff_lt_or_eq, not_lt]
  | false =>
    rw [if_neg (by simp), Bool.and_eq_true, decide_eq_true_eq, decide_eq_true_eq, hhas, hc, hlow,
      hhigh]
    simp

end Interval

/-! Powers of ten. -/

theorem toDigits_bounds {n : ℕ} (h : n ≠ 0) :
    10 ^ ((Nat.toDigits 10 n).length - 1) ≤ n ∧ n < 10 ^ (Nat.toDigits 10 n).length := by
  have hpos := Nat.length_toDigits_pos (b := 10) (n := n)
  constructor
  · by_cases hone : (Nat.toDigits 10 n).length - 1 = 0
    · rw [hone]
      omega
    · by_contra hlt
      have hle := (Nat.length_toDigits_le_iff (b := 10) (by decide) (by omega)).mpr (not_le.mp hlt)
      omega
  · exact (Nat.length_toDigits_le_iff (by decide) hpos).mp le_rfl

namespace Interval

/-- The number in the middle of an interval. -/
def middle (i : Interval) : ℚ := i.value * 2 ^ i.unit

theorem decimalLog_le {i : Interval} (h : i.value ≠ 0) : (10 : ℚ) ^ i.decimalLog ≤ i.middle := by
  have hratio := i.overPowerOfTen_ratio i.value 0
  have hden := i.overPowerOfTen_pos i.value 0
  have hnum : 0 < (i.overPowerOfTen i.value 0).1 :=
    Nat.mul_pos (Nat.mul_pos (Nat.pos_of_ne_zero h) (Nat.pow_pos (by decide)))
      (Nat.pow_pos (by decide))
  rw [zpow_zero, div_one] at hratio
  rw [middle, ← hratio]
  unfold decimalLog
  dsimp only
  generalize (i.overPowerOfTen i.value 0).1 = num at *
  generalize (i.overPowerOfTen i.value 0).2 = den at *
  have hd : (0 : ℚ) < den := by exact_mod_cast hden
  rw [le_div_iff₀ hd]
  have hcast (n : ℕ) : 0 < (Nat.toDigits 10 n).length →
      ((Nat.toDigits 10 n).length : ℤ) - 1 = ((Nat.toDigits 10 n).length - 1 : ℕ) := by omega
  split
  · rename_i hle
    have hlow := (toDigits_bounds (Nat.div_pos hle hden).ne').1
    rw [hcast _ Nat.length_toDigits_pos, zpow_natCast]
    exact_mod_cast (Nat.le_div_iff_mul_le hden).mp hlow
  · rename_i hlt
    have hhigh := (toDigits_bounds (Nat.div_pos (not_le.mp hlt).le hnum).ne').2
    split
    · rename_i heq
      rw [hcast _ Nat.length_toDigits_pos, zpow_neg, zpow_natCast, inv_mul_le_iff₀ (by positivity)]
      have hle := (Nat.mul_comm _ _ ▸ heq).ge
      exact_mod_cast hle
    · rw [zpow_neg, zpow_natCast, inv_mul_le_iff₀ (by positivity)]
      have hle := ((Nat.div_lt_iff_lt_mul hnum).mp hhigh).le
      exact_mod_cast hle

theorem middle_around (s : ℕ) (e : ℤ) : (around s e).middle = s * 2 ^ e := by
  simp only [middle, around, quarter]
  push_cast
  ring

/-- A number is further away from the ends of its interval than half a grid that divides it into
`10 ^ 16` parts or more. -/
theorem has_of_near {s : ℕ} {e : ℤ} (hf : InFormat s e) (hs : s ≠ 0) {q step : ℚ}
    (hstep : step * 10 ^ 16 ≤ s * 2 ^ e) (hlow : s * 2 ^ e - step / 2 ≤ q)
    (hhigh : q ≤ s * 2 ^ e + step / 2) : (around s e).Has q := by
  have hp : (0 : ℚ) < 2 ^ e := by positivity
  have hshort : (s : ℚ) < 2 ^ 53 := by exact_mod_cast hf.short
  constructor
  · left
    simp only [around, quarter]
    split
    · rename_i h
      rw [Nat.cast_sub (by omega), h.1]
      rw [h.1] at hstep hlow
      norm_num at hstep hlow ⊢
      linarith
    · rw [Nat.cast_sub (by omega)]
      push_cast
      nlinarith
  · left
    simp only [around, quarter]
    push_cast
    nlinarith

/-- The nearest point of a grid that is fine enough is inside the interval. -/
theorem holds_nearest {s : ℕ} {e : ℤ} (hf : InFormat s e) (hs : s ≠ 0) {k : ℤ}
    (hk : (10 : ℚ) ^ k * 10 ^ 16 ≤ (around s e).middle) :
    (around s e).holds (Decimal.roundHalfEven
      ((around s e).overPowerOfTen (around s e).value k).1
      ((around s e).overPowerOfTen (around s e).value k).2) k = true := by
  have hpos := (around s e).overPowerOfTen_pos (around s e).value k
  have hratio := (around s e).overPowerOfTen_ratio (around s e).value k
  rw [holds_iff]
  rw [← middle] at hratio
  rw [middle_around] at hk hratio
  generalize ((around s e).overPowerOfTen (around s e).value k).1 = num at *
  generalize ((around s e).overPowerOfTen (around s e).value k).2 = den at *
  obtain ⟨hbelow, habove⟩ : 2 * num ≤ 2 * (Decimal.roundHalfEven num den * den) + den ∧
      2 * (Decimal.roundHalfEven num den * den) ≤ 2 * num + den := Decimal.roundHalfEven_near hpos
  generalize Decimal.roundHalfEven num den = point at *
  have hden : (0 : ℚ) < den := by exact_mod_cast hpos
  have hten : (0 : ℚ) < 10 ^ k := by positivity
  have hvalue : (s : ℚ) * 2 ^ e = num / den * 10 ^ k := by
    rw [hratio, div_mul_cancel₀ _ hten.ne']
  have hbelow : (num : ℚ) / den ≤ point + 1 / 2 := by
    have : (2 : ℚ) * num ≤ 2 * (point * den) + den := by exact_mod_cast hbelow
    rw [div_le_iff₀ hden]
    linarith
  have habove : (point : ℚ) - 1 / 2 ≤ num / den := by
    have : (2 : ℚ) * (point * den) ≤ 2 * num + den := by exact_mod_cast habove
    rw [le_div_iff₀ hden]
    linarith
  refine has_of_near hf hs hk ?_ ?_ <;> rw [hvalue] <;> nlinarith

/-! The search takes the first grid with a point inside. -/

theorem holds_of_candidate? {i : Interval} {k : ℤ} {d : ℕ} (h : i.candidate? k = some d) :
    i.holds d k = true := by
  unfold candidate? at h
  dsimp only at h
  split at h
  · rename_i hd
    exact Option.some.inj h ▸ hd
  · split at h
    · rename_i hd
      exact Option.some.inj h ▸ hd
    · split at h
      · rename_i hd
        exact Option.some.inj h ▸ hd
      · cases h

theorem holds_of_search {i : Interval} {tries digits d : ℕ} {k : ℤ}
    (h : i.search tries digits = some (d, k)) : i.holds d k = true := by
  induction tries generalizing digits with
  | zero => cases h
  | succ tries ih =>
    unfold search at h
    dsimp only at h
    split at h
    · rename_i hc
      cases h
      exact holds_of_candidate? hc
    · exact ih h

theorem search_isSome {i : Interval} {tries digits : ℕ} (more : ℕ) (hm : more < tries)
    (h : (i.candidate? (i.decimalLog + 1 - (digits + more : ℕ))).isSome) :
    (i.search tries digits).isSome := by
  induction tries generalizing digits more with
  | zero => omega
  | succ tries ih =>
    unfold search
    dsimp only
    split
    · rfl
    · rename_i hc
      cases more with
      | zero => rw [Nat.add_zero, hc] at h; cases h
      | succ more =>
        refine ih more (Nat.lt_of_succ_lt_succ hm) ?_
        rwa [Nat.add_right_comm]

/-- Seventeen digits suffice. -/
theorem search_around {s : ℕ} {e : ℤ} (hf : InFormat s e) (hs : s ≠ 0) :
    ((around s e).search 17 1).isSome := by
  have hvalue : (around s e).value ≠ 0 := by
    simp only [around]
    omega
  have hgrid : (10 : ℚ) ^ ((around s e).decimalLog + 1 - (1 + 16 : ℕ)) * 10 ^ 16 ≤
      (around s e).middle := by
    refine le_of_eq_of_le ?_ (decimalLog_le hvalue)
    rw [← zpow_natCast, ← zpow_add₀ (by norm_num)]
    congr 1
    push_cast
    ring
  refine search_isSome 16 (by decide) ?_
  unfold candidate?
  dsimp only
  rw [if_pos (holds_nearest hf hs hgrid)]
  rfl

end Interval

theorem withoutZeros_value (tries digits : ℕ) (scale : ℤ) :
    ((withoutZeros tries digits scale).1 : ℚ) * 10 ^ (withoutZeros tries digits scale).2 =
      digits * 10 ^ scale := by
  induction tries generalizing digits scale with
  | zero => rfl
  | succ tries ih =>
    unfold withoutZeros
    split
    · rename_i h
      have hdigits : (digits : ℚ) = (digits / 10 : ℕ) * 10 := by
        have : digits = digits / 10 * 10 := by omega
        exact_mod_cast this
      rw [ih, hdigits, zpow_add_one₀ (by norm_num)]
      ring
    · rfl

/-- The shortest decimal of a number is rounded to it. -/
theorem shortest_has {s : ℕ} {e : ℤ} (hf : InFormat s e) (hs : s ≠ 0) :
    (Interval.around s e).Has ((shortest s e).1 * 10 ^ (shortest s e).2) := by
  obtain ⟨⟨d, k⟩, hsearch⟩ := Option.isSome_iff_exists.mp (Interval.search_around hf hs)
  have hshortest : shortest s e = withoutZeros 20 d k := by simp [shortest, hs, hsearch]
  rw [hshortest, withoutZeros_value]
  exact ((Interval.around s e).holds_iff k d).mp (Interval.holds_of_search hsearch)

/-! Reading a decimal. -/

theorem decimal_bounds {d : ℕ} (hd : d ≠ 0) (k : ℤ) :
    (10 : ℚ) ^ ((Nat.toDigits 10 d).length + k - 1) ≤ d * 10 ^ k ∧
      (d : ℚ) * 10 ^ k < 10 ^ ((Nat.toDigits 10 d).length + k) := by
  obtain ⟨hlow, hhigh⟩ := toDigits_bounds hd
  have hpos := Nat.length_toDigits_pos (b := 10) (n := d)
  have hlow : (10 : ℚ) ^ ((Nat.toDigits 10 d).length - 1) ≤ d := by exact_mod_cast hlow
  have hhigh : (d : ℚ) < 10 ^ (Nat.toDigits 10 d).length := by exact_mod_cast hhigh
  constructor
  · calc (10 : ℚ) ^ ((Nat.toDigits 10 d).length + k - 1)
        = 10 ^ ((Nat.toDigits 10 d).length - 1) * 10 ^ k := by
          rw [← zpow_natCast, ← zpow_add₀ (by norm_num)]
          congr 1
          omega
      _ ≤ d * 10 ^ k := by gcongr
  · calc (d : ℚ) * 10 ^ k < 10 ^ (Nat.toDigits 10 d).length * 10 ^ k := by gcongr
      _ = 10 ^ ((Nat.toDigits 10 d).length + k) := by
        rw [← zpow_natCast, ← zpow_add₀ (by norm_num)]

/-- What is rounded to a number that is not zero lies within the range of the format. -/
theorem Interval.Has.in_range {s : ℕ} {e : ℤ} (hf : InFormat s e) (hs : s ≠ 0) {q : ℚ}
    (h : (around s e).Has q) : (10 : ℚ) ^ (-331 : ℤ) < q ∧ q < 10 ^ (310 : ℤ) := by
  have hp : (0 : ℚ) < 2 ^ e := by positivity
  have hone : (1 : ℚ) ≤ s := by exact_mod_cast Nat.one_le_iff_ne_zero.mpr hs
  have hsmall : (2 : ℚ) ^ 1075 < 10 ^ 331 := by
    exact_mod_cast (by decide +kernel : Nat.pow 2 1075 < Nat.pow 10 331)
  have hlarge : (2 : ℚ) ^ 1024 < 10 ^ 310 := by
    exact_mod_cast (by decide +kernel : Nat.pow 2 1024 < Nat.pow 10 310)
  constructor
  · have hhalf : 1 / 2 ≤ q / 2 ^ e := by
      rcases (h.near hs).1 with hq | ⟨hq, -⟩ <;> linarith
    have hleast : (2 : ℚ) ^ (-1074 : ℤ) ≤ 2 ^ e := zpow_le_zpow_right₀ (by norm_num) hf.least
    rw [le_div_iff₀ hp] at hhalf
    calc (10 : ℚ) ^ (-331 : ℤ) = (10 ^ 331)⁻¹ := zpow_neg 10 331
      _ < (2 ^ 1075)⁻¹ := inv_strictAnti₀ (by positivity) hsmall
      _ = 1 / 2 * 2 ^ (-1074 : ℤ) := by
        rw [pow_succ, zpow_neg, mul_inv, mul_comm, one_div]
        rfl
      _ ≤ 1 / 2 * 2 ^ e := by gcongr
      _ ≤ q := hhalf
  · have hgreatest : 52 + e + 1 ≤ 1024 := by
      have := hf.greatest
      unfold greatestExponent at this
      omega
    calc q < 2 ^ (52 + e + 1) := h.lt_power hf
      _ ≤ 2 ^ (1024 : ℤ) := zpow_le_zpow_right₀ (by norm_num) hgreatest
      _ < 10 ^ (310 : ℤ) := by exact_mod_cast hlarge

/-- A decimal that is rounded to a number is read as that number. -/
theorem ofDecimal_of_has (negative : Bool) {s : ℕ} {e : ℤ} (hf : InFormat s e) (hs : s ≠ 0)
    {d : ℕ} {k : ℤ} (h : (Interval.around s e).Has (d * 10 ^ k)) :
    ofDecimal negative d k = finite negative s e := by
  obtain ⟨hlow, hhigh⟩ := h.in_range hf hs
  have hd : d ≠ 0 := by
    rintro rfl
    rw [Nat.cast_zero, zero_mul] at hlow
    exact absurd hlow (not_lt.mpr (by positivity))
  obtain ⟨hfirst, hlast⟩ := decimal_bounds hd k
  have hupper := (zpow_lt_zpow_iff_right₀ (by norm_num)).mp (hfirst.trans_lt hhigh)
  have hlower := (zpow_lt_zpow_iff_right₀ (by norm_num)).mp (hlow.trans hlast)
  unfold ofDecimal mostIntegerDigits mostLeadingZeros
  dsimp only
  rw [if_neg hd, if_neg (by omega), if_neg (by omega)]
  refine ofRatio_of_has negative hf hs
    (Nat.mul_pos (Nat.pos_of_ne_zero hd) (Nat.pow_pos (by decide))) (Nat.pow_pos (by decide)) ?_
  rw [zpow_eq_div (by norm_num : (10 : ℚ) ≠ 0)] at h
  simp only [Nat.pow_eq]
  push_cast
  rwa [mul_div_assoc]

/-- The shortest decimal of a number is read as that number, and so is each decimal of its value. -/
theorem ofDecimal_of_shortest (negative : Bool) {s : ℕ} {e : ℤ} (hf : InFormat s e) {d : ℕ} {k : ℤ}
    (h : (d : ℚ) * 10 ^ k = (shortest s e).1 * 10 ^ (shortest s e).2) :
    ofDecimal negative d k = finite negative s e := by
  by_cases hs : s = 0
  · subst hs
    have he : e = leastExponent := hf.full.resolve_left (by decide)
    have hd : d = 0 := by
      have hten : (10 : ℚ) ^ k ≠ 0 := (zpow_pos (by norm_num) k).ne'
      have hzero : (d : ℚ) * 10 ^ k = 0 := by simpa [shortest] using h
      exact_mod_cast (mul_eq_zero.mp hzero).resolve_right hten
    simp [ofDecimal, hd, he, zero]
  · exact ofDecimal_of_has negative hf hs (h ▸ shortest_has hf hs)

theorem shortest_eq_zero {s : ℕ} {e : ℤ} (hf : InFormat s e) (h : (shortest s e).1 = 0) :
    (shortest s e).2 = 0 := by
  by_cases hs : s = 0
  · simp [shortest, hs]
  · have hpos := ((shortest_has hf hs).in_range hf hs).1
    rw [h, Nat.cast_zero, zero_mul] at hpos
    exact absurd hpos (not_lt.mpr (by positivity))

/-- A number of the format, or what is no finite number. -/
def IsProper : Binary64 → Prop
  | finite _ significand exponent => InFormat significand exponent
  | _ => True

/-! What is rounded becomes a number of the format. -/

section Proper

variable (negative : Bool)

theorem zero_isProper : (zero negative).IsProper where
  short := by norm_num
  least := le_rfl
  greatest := by decide
  full := .inr rfl

/-- All digits are used, or the exponent is the least one; one digit more is cut off. -/
theorem pack_isProper {n : ℕ} {e : ℤ} (he : leastExponent ≤ e) (hn : n ≤ 2 ^ 53)
    (hf : 2 ^ 52 ≤ n ∨ e = leastExponent) : (pack negative n e).IsProper := by
  have hbound : significandBound = 2 ^ 53 := rfl
  unfold pack
  split
  · rename_i hs
    split
    · rename_i hg
      exact ⟨hbound ▸ hs, he, hg, hf⟩
    · trivial
  · rename_i hs
    obtain rfl : n = 2 ^ 53 := by omega
    split
    · rename_i hg
      exact ⟨by norm_num, by omega, hg, .inl (by norm_num)⟩
    · trivial

/-- A quotient of at least `2 ^ 52` units keeps all digits, and no quotient has more than `2 ^ 53`
units. -/
theorem ofRatio_isProper (num : ℕ) {den : ℕ} (hd : 0 < den) :
    (ofRatio negative num den).IsProper := by
  unfold ofRatio
  split
  · exact zero_isProper negative
  · rename_i hn
    obtain ⟨hlow, hhigh⟩ := binaryLog_spec (Nat.pos_of_ne_zero hn) hd
    dsimp only
    generalize he : max leastExponent (binaryLog num den - 52) = e
    have hp : (0 : ℚ) < 2 ^ e := by positivity
    have hunit : 0 < den * 2 ^ e.toNat := by positivity
    have hscaled := scaled_eq num hd e
    simp only [Nat.pow_eq]
    generalize num * 2 ^ (-e).toNat = units at *
    generalize den * 2 ^ e.toNat = unit at *
    have hunit' : (0 : ℚ) < unit := by exact_mod_cast hunit
    refine pack_isProper negative (by omega) (Decimal.roundHalfEven_le hunit ?_) ?_
    · have hless : (units : ℚ) / unit ≤ 2 ^ 53 := by
        rw [hscaled, div_le_iff₀ hp, ← zpow_natCast, ← zpow_add₀ (by norm_num)]
        exact hhigh.le.trans (zpow_le_zpow_right₀ (by norm_num) (by push_cast; omega))
      rw [div_le_iff₀ hunit'] at hless
      exact_mod_cast hless
    · by_cases hleast : e = leastExponent
      · exact .inr hleast
      · refine .inl (Decimal.le_roundHalfEven hunit ?_)
        have hmore : (2 : ℚ) ^ 52 ≤ units / unit := by
          rw [hscaled, le_div_iff₀ hp, ← zpow_natCast, ← zpow_add₀ (by norm_num)]
          exact (zpow_le_zpow_right₀ (by norm_num) (by push_cast; omega)).trans hlow
        rw [le_div_iff₀ hunit'] at hmore
        exact_mod_cast hmore

theorem ofDecimal_isProper (digits : ℕ) (scale : ℤ) :
    (ofDecimal negative digits scale).IsProper := by
  unfold ofDecimal
  dsimp only
  split
  · exact zero_isProper negative
  · split
    · trivial
    · split
      · exact zero_isProper negative
      · exact ofRatio_isProper negative _ (Nat.pow_pos (by decide))

end Proper

end StorageGateway.Binary64
