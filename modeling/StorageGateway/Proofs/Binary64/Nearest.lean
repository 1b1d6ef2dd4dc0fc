import Mathlib.Algebra.Order.Field.Power
import Mathlib.Algebra.Order.Field.Rat
import Mathlib.Tactic.FieldSimp
import Mathlib.Tactic.Linarith
import Mathlib.Tactic.NormNum
import Mathlib.Tactic.Positivity
import Mathlib.Tactic.Ring
import StorageGateway.Binary64.Shortest
import StorageGateway.Proofs.Binary64.Range

/-! The rationals that are rounded to a number of the binary format. They make up an interval around
it, and every one of them, however it is given, is rounded to that number. -/
namespace StorageGateway

/-- A power with an integer exponent as a quotient of two with natural ones. -/
theorem zpow_eq_div {b : ℚ} (hb : b ≠ 0) (k : ℤ) : b ^ k = b ^ k.toNat / b ^ (-k).toNat := by
  rw [← zpow_natCast, ← zpow_natCast, ← zpow_sub₀ hb]
  congr 1
  omega

/-- What is nearer to an integer than a half, or as near as a half if the integer is even, is rounded
to it. -/
theorem Decimal.roundHalfEven_of_near {num den : ℕ} (h : 0 < den) (n : ℕ)
    (hlow : n - 1 / 2 < (num : ℚ) / den ∨ n - 1 / 2 = (num : ℚ) / den ∧ n % 2 = 0)
    (hhigh : (num : ℚ) / den < n + 1 / 2 ∨ (num : ℚ) / den = n + 1 / 2 ∧ n % 2 = 0) :
    roundHalfEven num den = n := by
  have hd : (0 : ℚ) < den := by exact_mod_cast h
  have hq : (num : ℚ) = num / den * den := by field_simp
  have hlow : 2 * (n * den) < 2 * num + den ∨ 2 * (n * den) = 2 * num + den ∧ n % 2 = 0 := by
    rcases hlow with hlow | ⟨hlow, hn⟩
    · left
      have : 2 * ((n : ℚ) * den) < 2 * num + den := by rw [hq]; nlinarith
      exact_mod_cast this
    · refine .inr ⟨?_, hn⟩
      have : 2 * ((n : ℚ) * den) = 2 * num + den := by rw [hq, ← hlow]; ring
      exact_mod_cast this
  have hhigh : ¬ (2 * ((n + 1) * den) < 2 * num + den ∨
      2 * ((n + 1) * den) = 2 * num + den ∧ (n + 1) % 2 = 0) := by
    rcases hhigh with hhigh | ⟨hhigh, hn⟩
    · have : 2 * (num : ℚ) + den < 2 * ((n + 1) * den) := by rw [hq]; nlinarith
      have : 2 * num + den < 2 * ((n + 1) * den) := by exact_mod_cast this
      omega
    · have : 2 * (num : ℚ) + den = 2 * ((n + 1) * den) := by rw [hq, hhigh]; ring
      have : 2 * num + den = 2 * ((n + 1) * den) := by exact_mod_cast this
      omega
  rw [← le_roundHalfEven_iff h] at hlow hhigh
  omega

namespace Binary64

section Logarithm

variable {num den : ℕ} (hn : 0 < num) (hd : 0 < den)
include hn hd

/-- A quotient lies between the powers of two that its parts show. -/
theorem log2_bounds :
    (2 : ℚ) ^ ((Nat.log2 num : ℤ) - Nat.log2 den - 1) < num / den ∧
      (num : ℚ) / den < 2 ^ ((Nat.log2 num : ℤ) - Nat.log2 den + 1) := by
  have hden : (0 : ℚ) < den := by exact_mod_cast hd
  have hn₁ : (2 : ℚ) ^ Nat.log2 num ≤ num := by exact_mod_cast Nat.log2_self_le hn.ne'
  have hn₂ : (num : ℚ) < 2 ^ (Nat.log2 num + 1) := by exact_mod_cast Nat.lt_log2_self
  have hd₁ : (2 : ℚ) ^ Nat.log2 den ≤ den := by exact_mod_cast Nat.log2_self_le hd.ne'
  have hd₂ : (den : ℚ) < 2 ^ (Nat.log2 den + 1) := by exact_mod_cast Nat.lt_log2_self
  constructor
  · rw [lt_div_iff₀ hden]
    calc (2 : ℚ) ^ ((Nat.log2 num : ℤ) - Nat.log2 den - 1) * den
        < 2 ^ ((Nat.log2 num : ℤ) - Nat.log2 den - 1) * 2 ^ (Nat.log2 den + 1) := by gcongr
      _ = 2 ^ Nat.log2 num := by
        rw [← zpow_natCast, ← zpow_natCast, ← zpow_add₀ (by norm_num)]
        congr 1
        push_cast
        ring
      _ ≤ num := hn₁
  · rw [div_lt_iff₀ hden]
    calc (num : ℚ) < 2 ^ (Nat.log2 num + 1) := hn₂
      _ = 2 ^ ((Nat.log2 num : ℤ) - Nat.log2 den + 1) * 2 ^ Nat.log2 den := by
        rw [← zpow_natCast, ← zpow_natCast, ← zpow_add₀ (by norm_num)]
        congr 1
        push_cast
        ring
      _ ≤ 2 ^ ((Nat.log2 num : ℤ) - Nat.log2 den + 1) * den := by gcongr

theorem binaryLog_spec :
    (2 : ℚ) ^ binaryLog num den ≤ num / den ∧
      (num : ℚ) / den < 2 ^ (binaryLog num den + 1) := by
  obtain ⟨hlow, hhigh⟩ := log2_bounds hn hd
  have hden : (0 : ℚ) < den := by exact_mod_cast hd
  have htest (k : ℤ) : den * Nat.pow 2 k.toNat ≤ num * Nat.pow 2 (-k).toNat ↔
      (2 : ℚ) ^ k ≤ num / den := by
    rw [zpow_eq_div (by norm_num), div_le_div_iff₀ (by positivity) hden, mul_comm den]
    exact_mod_cast Iff.rfl
  unfold binaryLog
  dsimp only
  split
  · rename_i h
    exact ⟨(htest _).mp h, hhigh⟩
  · rename_i h
    rw [htest] at h
    rw [sub_add_cancel]
    exact ⟨hlow.le, not_le.mp h⟩

theorem binaryLog_eq {k : ℤ} (hlow : (2 : ℚ) ^ k ≤ num / den)
    (hhigh : (num : ℚ) / den < 2 ^ (k + 1)) : binaryLog num den = k := by
  obtain ⟨h₁, h₂⟩ := binaryLog_spec hn hd
  have h₃ := (zpow_lt_zpow_iff_right₀ (by norm_num : (1 : ℚ) < 2)).mp (hlow.trans_lt h₂)
  have h₄ := (zpow_lt_zpow_iff_right₀ (by norm_num : (1 : ℚ) < 2)).mp (h₁.trans_lt hhigh)
  omega

end Logarithm

/-- A significand and an exponent of the format: all 53 digits are used, or the exponent is the least
one. -/
structure InFormat (significand : ℕ) (exponent : ℤ) : Prop where
  short : significand < 2 ^ 53
  least : leastExponent ≤ exponent
  greatest : exponent ≤ greatestExponent
  full : 2 ^ 52 ≤ significand ∨ exponent = leastExponent

/-- A rational inside an interval, or at an end that belongs to it. -/
structure Interval.Has (i : Interval) (q : ℚ) : Prop where
  low : i.low * 2 ^ i.unit < q ∨ i.low * 2 ^ i.unit = q ∧ i.closed = true
  high : q < i.high * 2 ^ i.unit ∨ q = i.high * 2 ^ i.unit ∧ i.closed = true

section Rounding

variable {s : ℕ} {e : ℤ} {q : ℚ}

theorem quarter (e : ℤ) : (2 : ℚ) ^ (e - 2) = 2 ^ e / 4 := by
  rw [zpow_sub₀ (by norm_num)]
  norm_num

/-- In units of the last digit, the rationals around a number are no further away than a half. -/
theorem Interval.Has.near (h : (around s e).Has q) (hs : s ≠ 0) :
    ((s : ℚ) - 1 / 2 < q / 2 ^ e ∨ s - 1 / 2 = q / 2 ^ e ∧ s % 2 = 0) ∧
      (q / 2 ^ e < s + 1 / 2 ∨ q / 2 ^ e = s + 1 / 2 ∧ s % 2 = 0) := by
  have hp : (0 : ℚ) < 2 ^ e := by positivity
  obtain ⟨hlow, hhigh⟩ := h
  simp only [around, quarter, beq_iff_eq] at hlow hhigh
  rw [lt_div_iff₀ hp, eq_div_iff hp.ne', div_lt_iff₀ hp, div_eq_iff hp.ne']
  constructor
  · split at hlow
    · rw [Nat.cast_sub (by omega)] at hlow
      left
      push_cast at hlow
      rcases hlow with hlow | ⟨hlow, -⟩ <;> nlinarith
    · rw [Nat.cast_sub (by omega)] at hlow
      push_cast at hlow
      rcases hlow with hlow | ⟨hlow, hc⟩
      · left; linarith
      · exact .inr ⟨by linarith, hc⟩
  · push_cast at hhigh
    rcases hhigh with hhigh | ⟨hhigh, hc⟩
    · left; linarith
    · exact .inr ⟨by linarith, hc⟩

/-- Below a power of two only a quarter is left, since the numbers stand twice as close there. -/
theorem Interval.Has.below_power (h : (around s e).Has q) (hf : InFormat s e)
    (he : e ≠ leastExponent) (hq : q < 2 ^ (52 + e)) :
    s = 2 ^ 52 ∧ 2 ^ 53 - 1 / 2 ≤ q / 2 ^ (e - 1) ∧ q / 2 ^ (e - 1) < 2 ^ 53 := by
  have hp : (0 : ℚ) < 2 ^ e := by positivity
  have hfull : 2 ^ 52 ≤ s := hf.full.resolve_right he
  have hunit : (2 : ℚ) ^ (e - 1) = 2 ^ e / 2 := zpow_sub_one₀ (by norm_num) e
  have hq : q < 2 ^ 52 * 2 ^ e := by
    rwa [zpow_add₀ (by norm_num)] at hq
  have hlow := h.low
  simp only [around, quarter] at hlow
  rw [hunit, le_div_iff₀ (by positivity), div_lt_iff₀ (by positivity)]
  have hleast := lt_of_le_of_ne hf.least (Ne.symm he)
  by_cases hs : s = 2 ^ 52
  · rw [if_pos ⟨hs, hleast⟩, hs] at hlow
    norm_num at hlow
    refine ⟨hs, ?_, by linarith⟩
    rcases hlow with hlow | ⟨hlow, -⟩ <;> linarith
  · have hlarge : (2 : ℚ) ^ 52 + 1 ≤ s := by
      have : 2 ^ 52 + 1 ≤ s := by omega
      exact_mod_cast this
    rw [if_neg fun hs' => hs hs'.1, Nat.cast_sub (by omega)] at hlow
    push_cast at hlow
    rcases hlow with hlow | ⟨hlow, -⟩ <;> nlinarith

/-- A quotient in units of a power of two. -/
theorem scaled_eq (num : ℕ) {den : ℕ} (hd : 0 < den) (e : ℤ) :
    ((num * 2 ^ (-e).toNat : ℕ) : ℚ) / (den * 2 ^ e.toNat : ℕ) = num / den / 2 ^ e := by
  have hden : (den : ℚ) ≠ 0 := by exact_mod_cast hd.ne'
  rw [zpow_eq_div (by norm_num : (2 : ℚ) ≠ 0) e]
  push_cast
  field_simp

/-- A quotient is packed as the number of units that it is near to. -/
theorem ofRatio_eq_pack (negative : Bool) {num den n : ℕ} (hn : num ≠ 0) (hd : 0 < den)
    (he : max leastExponent (binaryLog num den - 52) = e)
    (hlow : (n : ℚ) - 1 / 2 < num / den / 2 ^ e ∨
      (n : ℚ) - 1 / 2 = num / den / 2 ^ e ∧ n % 2 = 0)
    (hhigh : (num : ℚ) / den / 2 ^ e < n + 1 / 2 ∨
      (num : ℚ) / den / 2 ^ e = n + 1 / 2 ∧ n % 2 = 0) :
    ofRatio negative num den = pack negative n e := by
  rw [← scaled_eq num hd] at hlow hhigh
  have hround : Decimal.roundHalfEven (num * 2 ^ (-e).toNat) (den * 2 ^ e.toNat) = n :=
    Decimal.roundHalfEven_of_near (by positivity) n hlow hhigh
  unfold ofRatio
  rw [if_neg hn]
  dsimp only
  rw [he, ← hround]
  rfl

/-- Above a number there is room up to the next power of two. -/
theorem Interval.Has.lt_power (h : (around s e).Has q) (hf : InFormat s e) :
    q < 2 ^ (52 + e + 1) := by
  have hp : (0 : ℚ) < 2 ^ e := by positivity
  have hs : (s : ℚ) + 1 ≤ 2 ^ 53 := by exact_mod_cast hf.short
  have hhigh := h.high
  simp only [around, quarter] at hhigh
  rw [show 52 + e + 1 = 53 + e by ring, zpow_add₀ (by norm_num)]
  push_cast at hhigh
  norm_num
  rcases hhigh with hhigh | ⟨hhigh, -⟩ <;> nlinarith

section Quotients

variable (negative : Bool) {num den : ℕ}

/-- A quotient just below a power of two is rounded up to it. -/
theorem ofRatio_of_below_power (hf : InFormat s e) (hn : 0 < num) (hd : 0 < den)
    (h : (Interval.around s e).Has (num / den)) (he : e ≠ leastExponent)
    (hq : (num : ℚ) / den < 2 ^ (52 + e)) : ofRatio negative num den = finite negative s e := by
  obtain ⟨rfl, hlow, hlt⟩ := h.below_power hf he hq
  obtain ⟨hleast, hgreatest⟩ := And.intro hf.least hf.greatest
  have hp : (0 : ℚ) < 2 ^ (e - 1) := by positivity
  have hlog : binaryLog num den = 51 + e := by
    refine binaryLog_eq hn hd ?_ (by rw [show 51 + e + 1 = 52 + e by ring]; exact hq)
    rw [show 51 + e = 52 + (e - 1) by ring, zpow_add₀ (by norm_num), ← le_div_iff₀ hp]
    norm_num at hlow ⊢
    linarith
  rw [ofRatio_eq_pack negative (e := e - 1) (n := 2 ^ 53) hn.ne' hd (by omega)]
  · have hless : e - 1 < greatestExponent := by omega
    simp [pack, significandBound, hless]
  · rcases hlow.lt_or_eq with hlow | hlow
    · left; exact_mod_cast hlow
    · right; exact ⟨by exact_mod_cast hlow, rfl⟩
  · left
    push_cast
    linarith

/-- Each quotient in the interval around a number is rounded to it. -/
theorem ofRatio_of_has (hf : InFormat s e) (hs : s ≠ 0) (hn : 0 < num) (hd : 0 < den)
    (h : (Interval.around s e).Has (num / den)) :
    ofRatio negative num den = finite negative s e := by
  by_cases hbelow : e ≠ leastExponent ∧ (num : ℚ) / den < 2 ^ (52 + e)
  · exact ofRatio_of_below_power negative hf hn hd h hbelow.1 hbelow.2
  · have hhigh := h.lt_power hf
    have hleast := hf.least
    have hlog : max leastExponent (binaryLog num den - 52) = e := by
      by_cases he : e = leastExponent
      · have hle := (binaryLog_spec hn hd).1.trans_lt hhigh
        rw [zpow_lt_zpow_iff_right₀ (by norm_num)] at hle
        omega
      · have hlow : (2 : ℚ) ^ (52 + e) ≤ num / den := by
          by_contra hq
          exact hbelow ⟨he, not_le.mp hq⟩
        rw [binaryLog_eq hn hd hlow hhigh]
        omega
    obtain ⟨hnear₁, hnear₂⟩ := h.near hs
    rw [ofRatio_eq_pack negative hn.ne' hd hlog hnear₁ hnear₂]
    have hshort : s < significandBound := hf.short
    simp [pack, hshort, hf.greatest]

end Quotients

end Rounding

end Binary64

end StorageGateway
