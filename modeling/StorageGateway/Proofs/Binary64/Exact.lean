import StorageGateway.Proofs.Binary64.Digits

/-! What is exact in the binary format. A quotient that is a short integer times a power of two is a
number of the format and is not rounded; so short integers become numbers exactly, and moving their
point down stays exact too. -/
namespace StorageGateway

/-- A size with a sign. Zero may have either. -/
def Decimal.signed (negative : Bool) (size : ℚ) : ℚ := if negative then -size else size

namespace Decimal

theorem abs_signed (negative : Bool) (size : ℚ) : |signed negative size| = |size| := by
  cases negative <;> simp [signed]

theorem signed_div (negative : Bool) (size q : ℚ) :
    signed negative (size / q) = signed negative size / q := by
  cases negative <;> simp [signed, neg_div]

/-- An integer is its size with its sign. -/
theorem signed_natAbs (k : ℤ) : signed (k < 0) k.natAbs = k := by
  have hcast : (k.natAbs : ℚ) = |(k : ℚ)| := by rw [Nat.cast_natAbs, Int.cast_abs]
  by_cases hk : k < 0
  · have hk' : (k : ℚ) < 0 := by exact_mod_cast hk
    simp [signed, hk, hcast, abs_of_neg hk']
  · have hk' : (0 : ℚ) ≤ k := by exact_mod_cast not_lt.mp hk
    simp [signed, hk, hcast, abs_of_nonneg hk']

end Decimal

namespace Binary64

/-- The rational that a finite number is. -/
def value? : Binary64 → Option ℚ
  | finite negative significand exponent =>
    some (Decimal.signed negative (significand * 2 ^ exponent))
  | _ => none

/-- A significand that is not full is doubled until it is, or until the exponent is the least one.
-/
theorem exists_inFormat_of_lt {m : ℕ} {e : ℤ} (hm : m < 2 ^ 53) (hl : leastExponent ≤ e)
    (hg : e ≤ greatestExponent) : ∃ s e', InFormat s e' ∧ (s : ℚ) * 2 ^ e' = m * 2 ^ e := by
  obtain ⟨n, hn⟩ := Int.le.dest hl
  induction n generalizing m e with
  | zero => exact ⟨m, e, ⟨hm, hl, hg, .inr (by omega)⟩, rfl⟩
  | succ n ih =>
    by_cases hfull : 2 ^ 52 ≤ m
    · exact ⟨m, e, ⟨hm, hl, hg, .inl hfull⟩, rfl⟩
    · obtain ⟨s, e', hf, hvalue⟩ := @ih (2 * m) (e - 1) (by omega) (by omega) (by omega) (by omega)
      refine ⟨s, e', hf, hvalue.trans ?_⟩
      rw [zpow_sub_one₀ (by norm_num)]
      push_cast
      ring

theorem exists_inFormat {m : ℕ} {e : ℤ} (hm : m ≤ 2 ^ 53) (hl : leastExponent ≤ e)
    (hg : e < greatestExponent) : ∃ s e', InFormat s e' ∧ (s : ℚ) * 2 ^ e' = m * 2 ^ e := by
  rcases hm.lt_or_eq with hlt | rfl
  · exact exists_inFormat_of_lt hlt hl hg.le
  · refine ⟨2 ^ 52, e + 1, ⟨by norm_num, by omega, by omega, .inl le_rfl⟩, ?_⟩
    rw [zpow_add_one₀ (by norm_num)]
    push_cast
    ring

/-- A quotient that is a short integer times a power of two is not rounded. -/
theorem value?_ofRatio (negative : Bool) (num : ℕ) {den m : ℕ} {e : ℤ} (hd : 0 < den)
    (hm : m ≤ 2 ^ 53) (hl : leastExponent ≤ e) (hg : e < greatestExponent)
    (h : (num : ℚ) / den = m * 2 ^ e) :
    (ofRatio negative num den).value? = some (Decimal.signed negative (num / den)) := by
  by_cases hn : num = 0
  · simp [ofRatio, hn, zero, value?]
  · obtain ⟨s, e', hf, hvalue⟩ := exists_inFormat hm hl hg
    rw [← h] at hvalue
    have hden : (den : ℚ) ≠ 0 := by exact_mod_cast hd.ne'
    have hs : s ≠ 0 := by
      rintro rfl
      rw [Nat.cast_zero, zero_mul, eq_comm, div_eq_zero_iff] at hvalue
      exact hvalue.elim (by exact_mod_cast hn) hden
    have hhas : (Interval.around s e').Has (num / den) := by
      have hstep : (0 : ℚ) * 10 ^ 16 ≤ s * 2 ^ e' := by
        rw [zero_mul]
        positivity
      apply Interval.has_of_near hf hs hstep <;> simp [hvalue]
    rw [ofRatio_of_has negative hf hs (Nat.pos_of_ne_zero hn) hd hhas, value?, hvalue]

/-- A number as a quotient of integers. -/
theorem finite_eq_div (s : ℕ) (e : ℤ) :
    (s : ℚ) * 2 ^ e = (s * 2 ^ e.toNat : ℕ) / (2 ^ (-e).toNat : ℕ) := by
  rw [zpow_eq_div (by norm_num : (2 : ℚ) ≠ 0) e]
  push_cast
  rw [mul_div_assoc]

section Integers

variable {k : ℤ} (hk : k.natAbs ≤ 2 ^ 53)
include hk

theorem value?_ofInteger : (ofRatio (k < 0) k.natAbs 1).value? = some (k : ℚ) := by
  have hvalue := value?_ofRatio (k < 0) k.natAbs Nat.one_pos hk (e := 0) (by decide) (by decide)
    (by simp)
  rw [hvalue, Nat.cast_one, div_one, Decimal.signed_natAbs]

theorem ofInt?_of_short : ofInt? k = some (ofRatio (k < 0) k.natAbs 1) := by
  have hvalue := value?_ofInteger hk
  unfold ofInt?
  split
  · rename_i hinfinite
    rw [hinfinite] at hvalue
    cases hvalue
  · rfl

/-- Moving the point of a short integer down loses none of its digits. -/
theorem value?_shiftedDown {x : Binary64} (hx : x.value? = some (k : ℚ)) {n : ℕ} (hn : n ≤ 1074) :
    (x.shiftedDown n).value? = some (k / 2 ^ n : ℚ) := by
  cases x with
  | nan => cases hx
  | infinite negative => cases hx
  | finite negative s e =>
    have hx : Decimal.signed negative (s * 2 ^ e) = k := Option.some.inj hx
    have hsize : (s : ℚ) * 2 ^ e = k.natAbs := by
      have habs := congrArg abs hx
      rw [Decimal.abs_signed, abs_of_nonneg (by positivity)] at habs
      rw [habs, Nat.cast_natAbs, Int.cast_abs]
    have hratio : ((s * 2 ^ e.toNat : ℕ) : ℚ) / (2 ^ (-e).toNat * 2 ^ n : ℕ) =
        s * 2 ^ e / 2 ^ n := by
      rw [finite_eq_div s e, div_div, Nat.cast_mul (2 ^ (-e).toNat), Nat.cast_pow 2 n,
        Nat.cast_ofNat]
    have hden : 0 < 2 ^ (-e).toNat * 2 ^ n := by positivity
    have hshort : ((s * 2 ^ e.toNat : ℕ) : ℚ) / (2 ^ (-e).toNat * 2 ^ n : ℕ) =
        k.natAbs * 2 ^ (-n : ℤ) := by
      rw [hratio, hsize, zpow_neg, zpow_natCast, div_eq_mul_inv]
    have hvalue := value?_ofRatio negative (s * 2 ^ e.toNat) hden hk
      (by unfold leastExponent; omega) (by unfold greatestExponent; omega) hshort
    rw [hratio, Decimal.signed_div, hx] at hvalue
    exact hvalue

end Integers

end Binary64

end StorageGateway
