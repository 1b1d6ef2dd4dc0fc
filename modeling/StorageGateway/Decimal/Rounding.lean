/-! The integer nearest to a quotient; of two that are equally near, the even one. -/
namespace StorageGateway.Decimal

def roundHalfEven (num den : Nat) : Nat :=
  let low := num / den
  if 2 * (num % den) < den then low
  else if den < 2 * (num % den) then low + 1
  else if low % 2 = 0 then low
  else low + 1

@[simp] theorem roundHalfEven_mul_self {den : Nat} (h : 0 < den) (q : Nat) :
    roundHalfEven (q * den) den = q := by
  simp [roundHalfEven, Nat.mul_div_cancel q h, h]

/-- The result is within half a unit of the quotient. -/
theorem roundHalfEven_near {num den : Nat} (h : 0 < den) :
    2 * num ≤ 2 * (roundHalfEven num den * den) + den ∧
      2 * (roundHalfEven num den * den) ≤ 2 * num + den := by
  have hd := Nat.div_add_mod num den
  have hm := Nat.mod_lt num h
  have hc : den * (num / den) = num / den * den := Nat.mul_comm _ _
  have hs : (num / den + 1) * den = num / den * den + den := Nat.succ_mul _ _
  unfold roundHalfEven
  dsimp only
  split
  · omega
  · split
    · rw [hs]; omega
    · split
      · omega
      · rw [hs]; omega

/-- Half-way between two integers the even one is taken. -/
theorem roundHalfEven_even_of_tie {num den : Nat} (h : 2 * (num % den) = den) :
    roundHalfEven num den % 2 = 0 := by
  have h₁ : ¬ 2 * (num % den) < den := by omega
  have h₂ : ¬ den < 2 * (num % den) := by omega
  simp only [roundHalfEven, h₁, h₂, if_false]
  split <;> omega

end StorageGateway.Decimal
