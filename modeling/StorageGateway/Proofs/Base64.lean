import StorageGateway.Bytes.Base64

/-! Base-64 text loses nothing: what was encoded is what decodes. -/
namespace StorageGateway.Bytes.Base64

theorem value?_digits : ∀ n < 64, value? (digit n) = some n ∧ digit n ≠ CodePoint.equalsSign := by
  decide +kernel

theorem value?_digit {n : Nat} (h : n < 64) : value? (digit n) = some n := (value?_digits n h).1

theorem digit_ne_equalsSign {n : Nat} (h : n < 64) : digit n ≠ CodePoint.equalsSign :=
  (value?_digits n h).2

/-- Four digits, none of them for filling up, decode to three bytes before the rest. -/
theorem decode?_digits {a b c d : Nat} (ha : a < 64) (hb : b < 64) (hc : c < 64) (hd : d < 64)
    (rest : Text) :
    decode? (digit a :: digit b :: digit c :: digit d :: rest) =
      (decode? rest).map (bytes a b c d ++ ·) := by
  cases rest with
  | nil =>
    simp [decode?, value?_digit ha, value?_digit hb, value?_digit hc, value?_digit hd,
      digit_ne_equalsSign hd]
  | cons e rest =>
    simp only [decode?, value?_digit ha, value?_digit hb, value?_digit hc, value?_digit hd]
    cases decode? (e :: rest) <;> rfl

section Group

variable (a b c : UInt8)

/-- The bits of three bytes, cut in four, are put together again. -/
theorem bytes_cut :
    bytes (a.toNat / 4) (a.toNat % 4 * 16 + b.toNat / 16) (b.toNat % 16 * 4 + c.toNat / 64)
      (c.toNat % 64) = [a, b, c] := by
  have ha := a.toNat_lt
  have hb := b.toNat_lt
  have hc := c.toNat_lt
  have h1 : a.toNat / 4 * 4 + (a.toNat % 4 * 16 + b.toNat / 16) / 16 = a.toNat := by omega
  have h2 : (a.toNat % 4 * 16 + b.toNat / 16) % 16 * 16 +
      (b.toNat % 16 * 4 + c.toNat / 64) / 4 = b.toNat := by omega
  have h3 : (b.toNat % 16 * 4 + c.toNat / 64) % 4 * 64 + c.toNat % 64 = c.toNat := by omega
  rw [bytes, h1, h2, h3]
  simp only [UInt8.ofNat_toNat]

theorem decode?_group (rest : Text) :
    decode? (group a.toNat b.toNat c.toNat ++ rest) = (decode? rest).map ([a, b, c] ++ ·) := by
  have ha := a.toNat_lt
  have hb := b.toNat_lt
  have hc := c.toNat_lt
  rw [← bytes_cut a b c]
  exact decode?_digits (by omega) (by omega) (by omega) (by omega) rest

end Group

/-- What was encoded decodes to what it was. -/
theorem decode?_encode (bs : Bytes) : decode? (encode bs) = some bs := by
  induction bs using encode.induct with
  | case1 a b c rest ih =>
    rw [encode, decode?_group, ih]
    rfl
  | case2 a b =>
    have ha := a.toNat_lt
    have hb := b.toNat_lt
    have hcut := congrArg (List.take 2) (bytes_cut a b 0)
    simp only [encode, group, List.take, List.cons_append, List.nil_append, decode?, if_true,
      if_neg (digit_ne_equalsSign (show b.toNat % 16 * 4 + 0 / 64 < 64 by omega)),
      value?_digit (show a.toNat / 4 < 64 by omega),
      value?_digit (show a.toNat % 4 * 16 + b.toNat / 16 < 64 by omega),
      value?_digit (show b.toNat % 16 * 4 + 0 / 64 < 64 by omega)]
    exact congrArg some hcut
  | case3 a =>
    have ha := a.toNat_lt
    have hcut := congrArg (List.take 1) (bytes_cut a 0 0)
    simp only [encode, group, List.take, List.cons_append, List.nil_append, decode?, if_true,
      value?_digit (show a.toNat / 4 < 64 by omega),
      value?_digit (show a.toNat % 4 * 16 + 0 / 16 < 64 by omega)]
    exact congrArg some hcut
  | case4 => rfl

end StorageGateway.Bytes.Base64
