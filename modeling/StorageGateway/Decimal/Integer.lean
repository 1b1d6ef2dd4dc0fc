import StorageGateway.Text.Digit

/-! Integers in decimal. -/
namespace StorageGateway.Decimal

def natural (n : Nat) : Text := (Nat.toDigits 10 n).map CodePoint.ofChar

/-- A minus sign stands in front of a negative number, nothing in front of any other. -/
def sign (negative : Bool) : Text := if negative then [CodePoint.hyphen] else []

def integer (i : Int) : Text := sign (i < 0) ++ natural i.natAbs

def digit (d : Nat) : CodePoint := CodePoint.ofChar (Nat.digitChar d)

theorem digitValue?_digit {d : Nat} (h : d < 10) : (digit d).digitValue? = some d := by
  have key : ∀ k : Fin 10, (digit k.val).digitValue? = some k.val := by decide
  exact key ⟨d, h⟩

theorem natural_of_lt {n : Nat} (h : n < 10) : natural n = [digit n] := by
  simp [natural, Nat.toDigits_of_lt_base h, digit]

theorem natural_of_le {n : Nat} (h : 10 ≤ n) :
    natural n = natural (n / 10) ++ [digit (n % 10)] := by
  have h' : ¬ n < 10 := by omega
  simp [natural, digit, Nat.toDigits_eq_if (b := 10) (n := n), h']

/-- Reading back what `natural` writes. -/
@[simp] theorem digitsValue_natural (n : Nat) : (natural n).digitsValue = n := by
  induction n using Nat.strongRecOn with
  | ind n ih =>
    by_cases h : n < 10
    · simp [natural_of_lt h, Text.digitsValue, digitValue?_digit h]
    · rw [natural_of_le (by omega), Text.digitsValue_concat, ih (n / 10) (by omega),
        digitValue?_digit (by omega)]
      simp
      omega

theorem natural_ne_nil (n : Nat) : natural n ≠ [] := by
  by_cases h : n < 10
  · simp [natural_of_lt h]
  · simp [natural_of_le (by omega : 10 ≤ n)]

theorem isDigit_of_mem_natural {n : Nat} {c : CodePoint} (h : c ∈ natural n) :
    c.isAsciiDigit = true := by
  have key : ∀ k : Fin 10, (digit k.val).isAsciiDigit = true := by decide
  induction n using Nat.strongRecOn with
  | ind n ih =>
    by_cases hn : n < 10
    · rw [natural_of_lt hn] at h
      simp at h
      subst h
      exact key ⟨n, hn⟩
    · rw [natural_of_le (by omega)] at h
      simp at h
      rcases h with h | h
      · exact ih (n / 10) (by omega) h
      · subst h
        exact key ⟨n % 10, by omega⟩

end StorageGateway.Decimal
