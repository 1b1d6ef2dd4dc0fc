import StorageGateway.Binary64.Places
import StorageGateway.Proofs.Binary64.Exact
import StorageGateway.Proofs.Json.Decimals

/-! A number written with a fixed count of places after the point. What is written is the decimal
with so many places that is nearest to the number; rounding to it keeps the order of numbers. -/
namespace StorageGateway

namespace Decimal

/-- No integer is nearer to a quotient, and if another one is as near it is the even one. -/
structure IsNearest (q : ℚ) (n : ℤ) : Prop where
  near (m : ℤ) : |q - n| ≤ |q - m|
  even (m : ℤ) : m ≠ n → |q - m| = |q - n| → Even n

section Nearest

variable {q r : ℚ} {n m : ℤ}

/-- The distance between two integers is covered from the quotient to both. -/
theorem one_le_abs_add_abs (h : m ≠ n) : 1 ≤ |q - n| + |q - m| := by
  have hapart : 1 ≤ |((m - n : ℤ) : ℚ)| := by
    exact_mod_cast Int.one_le_abs (sub_ne_zero.mpr h)
  calc (1 : ℚ) ≤ |(q - n) - (q - m)| := by
        rw [sub_sub_sub_cancel_left]
        exact_mod_cast hapart
    _ ≤ |q - n| + |q - m| := abs_sub _ _

theorem isNearest_iff : IsNearest q n ↔ |q - n| ≤ 1 / 2 ∧ (|q - n| = 1 / 2 → Even n) := by
  constructor
  · intro h
    have habove := h.near (n + 1)
    have hbelow := h.near (n - 1)
    push_cast at habove hbelow
    refine ⟨?_, fun htie => ?_⟩
    · rw [abs_le]
      constructor
      · by_contra hlt
        have hcloser : |q - (n - 1)| < n - q := abs_lt.mpr ⟨by linarith, by linarith⟩
        linarith [neg_le_abs (q - n)]
      · by_contra hlt
        have hcloser : |q - (n + 1)| < q - n := abs_lt.mpr ⟨by linarith, by linarith⟩
        linarith [le_abs_self (q - n)]
    · rcases (abs_eq (by norm_num)).mp htie with hd | hd
      · refine h.even (n + 1) (by omega) ?_
        rw [show q - (n + 1 : ℤ) = -(q - n) by push_cast; linarith, abs_neg]
      · refine h.even (n - 1) (by omega) ?_
        rw [show q - (n - 1 : ℤ) = -(q - n) by push_cast; linarith, abs_neg]
  · rintro ⟨hnear, heven⟩
    constructor
    · intro m
      by_cases hm : m = n
      · rw [hm]
      · linarith [one_le_abs_add_abs (q := q) hm]
    · intro m hm hdist
      have hone := one_le_abs_add_abs (q := q) hm
      exact heven (by linarith)

end Nearest

theorem isNearest_roundHalfEven {num den : ℕ} (h : 0 < den) :
    IsNearest (num / den) (roundHalfEven num den) := by
  have hnear := @roundHalfEven_near num den h
  have hself := (@le_roundHalfEven_iff num den h (roundHalfEven num den)).mp le_rfl
  have hnext := (@le_roundHalfEven_iff num den h (roundHalfEven num den + 1)).not.mp
    (Nat.not_succ_le_self _)
  rw [Nat.add_mul] at hnext
  generalize roundHalfEven num den = n at *
  obtain ⟨hbelow, habove⟩ := hnear
  have hd : (0 : ℚ) < den := by exact_mod_cast h
  have hdist : (num : ℚ) / den - (n : ℤ) = (num - n * den) / den := by
    rw [Int.cast_natCast]
    field_simp
  rw [isNearest_iff, hdist]
  constructor
  · have hbelow : (2 : ℚ) * num ≤ 2 * (n * den) + den := by exact_mod_cast hbelow
    have habove : (2 : ℚ) * (n * den) ≤ 2 * num + den := by exact_mod_cast habove
    rw [abs_le, le_div_iff₀ hd, div_le_iff₀ hd]
    constructor <;> linarith
  · intro htie
    rw [abs_eq (by norm_num), div_eq_iff hd.ne', div_eq_iff hd.ne'] at htie
    rw [Int.even_coe_nat, Nat.even_iff]
    rcases htie with htie | htie
    · have htie : (2 : ℚ) * num = 2 * (n * den) + den := by linarith
      have htie : 2 * num = 2 * (n * den) + den := by exact_mod_cast htie
      omega
    · have htie : (2 : ℚ) * (n * den) = 2 * num + den := by linarith
      have htie : 2 * (n * den) = 2 * num + den := by exact_mod_cast htie
      omega

namespace IsNearest

variable {q r : ℚ} {n m : ℤ}

theorem neg (h : IsNearest q n) : IsNearest (-q) (-n) := by
  have hdist : |-q - ((-n : ℤ) : ℚ)| = |q - n| := by
    rw [Int.cast_neg, ← neg_sub', abs_neg]
  rw [isNearest_iff] at h ⊢
  rwa [hdist, even_neg]

/-- Two quotients that go to integers against their order are both half-way between these, and so
the integers are both even. -/
theorem mono (hq : IsNearest q n) (hr : IsNearest r m) (h : q ≤ r) : n ≤ m := by
  rw [isNearest_iff] at hq hr
  by_contra hlt
  have hgap : (m : ℚ) + 1 ≤ n := by exact_mod_cast not_le.mp hlt
  obtain ⟨hlow, -⟩ := abs_le.mp hq.1
  obtain ⟨-, hhigh⟩ := abs_le.mp hr.1
  have hnext : (n : ℚ) = m + 1 := by linarith
  have hn : Even n := by
    apply hq.2
    rw [abs_eq (by norm_num)]
    exact .inr (by linarith)
  have hm : Even m := by
    apply hr.2
    rw [abs_eq (by norm_num)]
    exact .inl (by linarith)
  obtain rfl : n = m + 1 := by exact_mod_cast hnext
  exact Int.even_add_one.mp hn hm

end IsNearest

/-- A decimal of so many places that is nearest to a quotient, of two such the one whose last digit
is even. -/
def IsRounded (places : ℕ) (q r : ℚ) : Prop :=
  ∃ n : ℤ, IsNearest (q * 10 ^ places) n ∧ r = n / 10 ^ places

namespace IsRounded

variable {places : ℕ} {p q r s : ℚ}

/-- Half a unit of the last place is lost at most. -/
theorem error_le (h : IsRounded places q r) : |r - q| ≤ 1 / 2 / 10 ^ places := by
  obtain ⟨n, hn, rfl⟩ := h
  have hp : (0 : ℚ) < 10 ^ places := by positivity
  have hdist : (n : ℚ) / 10 ^ places - q = -(q * 10 ^ places - n) / 10 ^ places := by
    field_simp
    ring
  rw [hdist, abs_div, abs_neg, abs_of_pos hp]
  gcongr
  exact (isNearest_iff.mp hn).1

theorem mono (hq : IsRounded places q r) (hp : IsRounded places p s) (h : q ≤ p) : r ≤ s := by
  obtain ⟨n, hn, rfl⟩ := hq
  obtain ⟨m, hm, rfl⟩ := hp
  have hle : n ≤ m := hn.mono hm (by gcongr)
  gcongr

end IsRounded

/-- Texts of a decimal with a fixed count of places: a whole part without a needless zero, a point
and the places, and perhaps a minus sign in front. -/
inductive IsWritten (places : ℕ) : ℚ → Text → Prop
  | mk (negative : Bool) {whole fraction : Text} (hw : Json.IsWholePart whole)
      (hd : ∀ c ∈ fraction, c.isAsciiDigit = true) (hlen : fraction.length = places) :
      IsWritten places
        (signed negative (Text.digitsValue (whole ++ fraction) / 10 ^ places))
        (sign negative ++ (whole ++ CodePoint.dot :: fraction))

section WholePart

variable {whole whole' fraction fraction' t : Text} (hw : Json.IsWholePart whole)
include hw

/-- No digit is a minus sign. -/
theorem sign_append_ne : sign true ++ t ≠ sign false ++ (whole ++ fraction) := by
  obtain ⟨c, u, rfl⟩ := List.exists_cons_of_ne_nil hw.ne_nil
  intro heq
  have hc := hw.digits c List.mem_cons_self
  rw [← (List.cons.inj heq).1] at hc
  cases hc

/-- The point stands behind the first run of digits. -/
theorem parts_eq (hw' : Json.IsWholePart whole')
    (h : whole ++ CodePoint.dot :: fraction = whole' ++ CodePoint.dot :: fraction') :
    whole ++ fraction = whole' ++ fraction' := by
  obtain ⟨htake, hdrop⟩ := Json.takeWhile_append_of_stops hw.digits (Json.stops_dot fraction)
  obtain ⟨htake', hdrop'⟩ := Json.takeWhile_append_of_stops hw'.digits (Json.stops_dot fraction')
  rw [h] at htake hdrop
  rw [← htake, htake', (List.cons.inj (hdrop.symm.trans hdrop')).2]

end WholePart

/-- A text has one value. -/
theorem IsWritten.value_eq {places : ℕ} {q r : ℚ} {t : Text} (hq : IsWritten places q t)
    (hr : IsWritten places r t) : q = r := by
  generalize ht : t = t' at hr
  cases hq with
  | mk negative hw hd hlen =>
    cases hr with
    | mk negative' hw' hd' hlen' =>
      cases negative <;> cases negative'
      · rw [parts_eq hw hw' ht]
      · exact absurd ht.symm (sign_append_ne hw)
      · exact absurd ht (sign_append_ne hw')
      · rw [parts_eq hw hw' (List.cons.inj ht).2]

end Decimal

namespace Binary64

/-- The digits of `n`, filled with zeros in front until there are more of them than places. -/
def padded (places n : ℕ) : Text :=
  Decimal.zeros (places + 1 - (Decimal.natural n).length) ++ Decimal.natural n

section Padded

variable (places n : ℕ)

theorem length_padded :
    (padded places n).length = max (places + 1) (Decimal.natural n).length := by
  simp only [padded, Decimal.zeros, List.length_append, List.length_replicate]
  omega

theorem isDigit_of_mem_padded {c : CodePoint} (h : c ∈ padded places n) : c.isAsciiDigit = true :=
  (List.mem_append.mp h).elim Decimal.isDigit_of_mem_zeros Decimal.isDigit_of_mem_natural

@[simp] theorem digitsValue_padded : (padded places n).digitsValue = n := by
  rw [padded, Text.digitsValue_zeros_append, Decimal.digitsValue_natural]

/-- One zero stands before the point if the digits of the number are no more than the places. -/
theorem isWholePart_padded :
    Json.IsWholePart ((padded places n).take ((padded places n).length - places)) := by
  rw [length_padded]
  by_cases hlong : places < (Decimal.natural n).length
  · have hnatural : padded places n = Decimal.natural n := by
      rw [padded, Nat.sub_eq_zero_of_le hlong]
      rfl
    rw [hnatural]
    exact (Json.isWholePart_natural n).take (by omega)
  · obtain ⟨k, hk⟩ := Nat.exists_eq_succ_of_ne_zero
      (show places + 1 - (Decimal.natural n).length ≠ 0 by omega)
    rw [show max (places + 1) (Decimal.natural n).length - places = 1 by omega, padded, hk]
    exact Json.isWholePart_natural 0

theorem placedText_eq :
    placedText places n = (padded places n).take ((padded places n).length - places) ++
      CodePoint.dot :: (padded places n).drop ((padded places n).length - places) :=
  List.append_assoc _ (Text.ofString ".") _

theorem isWritten_placedText (negative : Bool) :
    Decimal.IsWritten places (Decimal.signed negative (n / 10 ^ places))
      (Decimal.sign negative ++ placedText places n) := by
  have hplaces : ((padded places n).drop ((padded places n).length - places)).length = places := by
    rw [List.length_drop, length_padded]
    omega
  have hwritten := Decimal.IsWritten.mk negative (isWholePart_padded places n)
    (fun c hc => isDigit_of_mem_padded places n (List.mem_of_mem_drop hc)) hplaces
  rwa [List.take_append_drop, digitsValue_padded, ← placedText_eq] at hwritten

end Padded

/-- What is written of a finite number is its rounded value. -/
theorem fixedText_of_value {x : Binary64} {q : ℚ} (hx : x.value? = some q) (places : ℕ) :
    ∃ r, Decimal.IsRounded places q r ∧ Decimal.IsWritten places r (fixedText places x) := by
  cases x with
  | nan => cases hx
  | infinite negative => cases hx
  | finite negative s e =>
    obtain rfl : Decimal.signed negative (s * 2 ^ e) = q := Option.some.inj hx
    have hnear : Decimal.IsNearest (s * 2 ^ e * 10 ^ places) (placedUnits places s e) := by
      have hratio : (s : ℚ) * 2 ^ e * 10 ^ places =
          (s * Nat.pow 2 e.toNat * Nat.pow 10 places : ℕ) / (Nat.pow 2 (-e).toNat : ℕ) := by
        rw [finite_eq_div s e, div_mul_eq_mul_div, Nat.cast_mul _ (Nat.pow 10 places)]
        simp
      rw [hratio]
      exact Decimal.isNearest_roundHalfEven (Nat.pow_pos (by decide))
    have hwritten := isWritten_placedText places (placedUnits places s e) negative
    cases negative with
    | false => exact ⟨_, ⟨placedUnits places s e, hnear, rfl⟩, hwritten⟩
    | true =>
      refine ⟨_, ⟨-placedUnits places s e, ?_, ?_⟩, hwritten⟩
      · simpa [Decimal.signed] using hnear.neg
      · rw [Int.cast_neg, Int.cast_natCast, neg_div]
        rfl

end Binary64

end StorageGateway
