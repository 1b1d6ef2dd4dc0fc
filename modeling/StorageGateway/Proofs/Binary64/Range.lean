import Mathlib.Algebra.Group.Nat.Defs
import StorageGateway.Binary64.Basic

/-! Which integers have a number in the binary format. Rounded to the nearest number, an integer goes
out of range from half-way between the greatest number and the power of two above it. -/
namespace StorageGateway

/-- A rounded quotient reaches an integer once the quotient is nearer to it than to the one below, or
half-way between them if the integer is even. -/
theorem Decimal.le_roundHalfEven_iff {num den : Nat} (h : 0 < den) (n : Nat) :
    n ≤ roundHalfEven num den ↔
      2 * (n * den) < 2 * num + den ∨ (2 * (n * den) = 2 * num + den ∧ n % 2 = 0) := by
  have hsplit : num = num / den * den + num % den := by
    rw [Nat.mul_comm]
    exact (Nat.div_add_mod num den).symm
  have hr := Nat.mod_lt num h
  have hnext : (num / den + 1) * den = num / den * den + den := Nat.succ_mul _ _
  have hround : roundHalfEven num den = num / den ∧ (2 * (num % den) < den ∨
        2 * (num % den) = den ∧ num / den % 2 = 0) ∨
      roundHalfEven num den = num / den + 1 ∧ (den < 2 * (num % den) ∨
        2 * (num % den) = den ∧ num / den % 2 ≠ 0) := by
    unfold roundHalfEven
    dsimp only
    split
    · exact .inl ⟨rfl, .inl ‹_›⟩
    · split
      · exact .inr ⟨rfl, .inl ‹_›⟩
      · split
        · exact .inl ⟨rfl, .inr ⟨by omega, ‹_›⟩⟩
        · exact .inr ⟨rfl, .inr ⟨by omega, ‹_›⟩⟩
  generalize num / den = low at *
  rcases Nat.lt_trichotomy n (low + 1) with hn | rfl | hn
  · have hle : n * den ≤ low * den := Nat.mul_le_mul_right den (Nat.le_of_lt_succ hn)
    omega
  · omega
  · have hle : (low + 2) * den ≤ n * den := Nat.mul_le_mul_right den hn
    have htwo : (low + 2) * den = low * den + 2 * den := Nat.add_mul _ _ _
    omega

section Bounds

variable {num den n : Nat} (h : 0 < den)
include h

theorem Decimal.roundHalfEven_le (hn : num ≤ n * den) : roundHalfEven num den ≤ n := by
  have hnext : (n + 1) * den = n * den + den := Nat.succ_mul n den
  refine Nat.le_of_not_lt fun hlt => ?_
  have hround := (le_roundHalfEven_iff h (n + 1)).mp hlt
  omega

theorem Decimal.le_roundHalfEven (hn : n * den ≤ num) : n ≤ roundHalfEven num den :=
  (le_roundHalfEven_iff h n).mpr (by omega)

end Bounds

namespace Binary64

/-- The least size of an integer that is out of range: half-way between the greatest number and the
power of two above it. -/
def integerBound : Nat := (Nat.pow 2 54 - 1) * Nat.pow 2 970

theorem binaryLog_one {n : Nat} (h : n ≠ 0) : binaryLog n 1 = Nat.log2 n := by
  have hone : Nat.log2 1 = 0 := rfl
  have hle : 2 ^ Nat.log2 n ≤ n := Nat.log2_self_le h
  simp [binaryLog, hone, hle]

theorem pack_eq_infinite_iff (negative : Bool) (significand : Nat) (exponent : Int) :
    (∃ sign, pack negative significand exponent = infinite sign) ↔
      971 < exponent ∨ exponent = 971 ∧ 2 ^ 53 ≤ significand := by
  have hbound : significandBound = 2 ^ 53 := rfl
  unfold pack greatestExponent
  rw [hbound]
  split
  · split
    · simp; omega
    · simp; omega
  · split
    · simp; omega
    · simp; omega

/-- An integer keeps 53 binary digits, of which the last one is rounded. -/
theorem ofRatio_one (negative : Bool) {n : Nat} (h : n ≠ 0) :
    ofRatio negative n 1 =
      pack negative
        (Decimal.roundHalfEven (n * 2 ^ (52 - Nat.log2 n)) (2 ^ (Nat.log2 n - 52)))
        (Nat.log2 n - 52) := by
  have he : max leastExponent ((Nat.log2 n : Int) - 52) = Nat.log2 n - 52 := by
    unfold leastExponent
    omega
  have hup : (-((Nat.log2 n : Int) - 52)).toNat = 52 - Nat.log2 n := by omega
  have hdown : ((Nat.log2 n : Int) - 52).toNat = Nat.log2 n - 52 := by omega
  unfold ofRatio
  dsimp only
  rw [if_neg h, binaryLog_one h, he, hup, hdown, Nat.one_mul]
  rfl

/-- An integer of at most 1023 digits is far from the bound, one of at least 1025 beyond it, and of
those in between the rounded significand tells. -/
theorem ofRatio_one_eq_infinite_iff (negative : Bool) {n : Nat} (h : n ≠ 0) :
    (∃ sign, ofRatio negative n 1 = infinite sign) ↔ integerBound ≤ n := by
  have hbelow (k m : Nat) (hk : Nat.log2 n < k + m) : n < 2 ^ k * 2 ^ m := by
    rw [← Nat.pow_add 2 k m]
    exact Nat.lt_of_lt_of_le Nat.lt_log2_self (Nat.pow_le_pow_right (by decide) hk)
  have habove (k m : Nat) (hk : k + m ≤ Nat.log2 n) : 2 ^ k * 2 ^ m ≤ n := by
    rw [← Nat.pow_add 2 k m]
    exact Nat.le_trans (Nat.pow_le_pow_right (by decide) hk) (Nat.log2_self_le h)
  rw [ofRatio_one negative h, pack_eq_infinite_iff, integerBound, Nat.pow_eq, Nat.pow_eq]
  rcases Nat.lt_trichotomy (Nat.log2 n) (53 + 970) with hl | hl | hl
  · have hn := hbelow 53 970 hl
    generalize 2 ^ 970 = p at *
    omega
  · have hn := hbelow 54 970 (by omega)
    have hdigits : 52 - Nat.log2 n = 0 ∧ Nat.log2 n - 52 = 1 + 970 := by omega
    rw [hdigits.1, hdigits.2, Nat.pow_zero, Nat.mul_one,
      Decimal.le_roundHalfEven_iff (Nat.two_pow_pos (1 + 970)), Nat.pow_add 2 1 970]
    generalize 2 ^ 970 = p at *
    omega
  · have hn := habove 54 970 hl
    generalize 2 ^ 970 = p at *
    omega

/-- An integer has no number exactly when it is that large. -/
theorem ofInt?_eq_none_iff (i : Int) : ofInt? i = none ↔ integerBound ≤ i.natAbs := by
  have hinfinite : ofInt? i = none ↔
      ∃ sign, ofRatio (decide (i < 0)) i.natAbs 1 = infinite sign := by
    unfold ofInt?
    split
    · simp [*]
    · rename_i hfinite
      exact iff_of_false (by simp) fun ⟨sign, h⟩ => hfinite sign h
  rw [hinfinite]
  by_cases h : i.natAbs = 0
  · have hbound : 0 < integerBound := by decide +kernel
    have hzero : ofRatio (decide (i < 0)) 0 1 = zero (decide (i < 0)) := rfl
    simp only [h, hzero, zero, reduceCtorEq, exists_false, false_iff]
    omega
  · exact ofRatio_one_eq_infinite_iff _ h

end Binary64

end StorageGateway
