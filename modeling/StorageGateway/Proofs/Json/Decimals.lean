import StorageGateway.Json.Number
import StorageGateway.Proofs.Binary64.Digits
import StorageGateway.Proofs.Json.Reading

/-! A number with a point is read as it was written, be it positional or with an exponent. The digits
and the scale may come back as others of the same value, so that it is the value that decides. -/
namespace StorageGateway

namespace Text

theorem digitsValue_zeros_append (n : ℕ) (t : Text) :
    digitsValue (Decimal.zeros n ++ t) = digitsValue t := by
  induction n with
  | zero => rfl
  | succ n ih => exact ih

theorem digitsValue_append_zeros (t : Text) (n : ℕ) :
    digitsValue (t ++ Decimal.zeros n) = digitsValue t * 10 ^ n := by
  have hzero : CodePoint.digitValue? (CodePoint.ofChar '0') = some 0 := by decide
  induction n with
  | zero => simp [Decimal.zeros]
  | succ n ih =>
    have hlast : Decimal.zeros (n + 1) = Decimal.zeros n ++ [CodePoint.ofChar '0'] :=
      List.replicate_succ'
    rw [hlast, ← List.append_assoc, digitsValue_concat, ih, hzero, Nat.pow_succ]
    simp only [Option.getD_some]
    ring

end Text

theorem Decimal.isDigit_of_mem_zeros {n : ℕ} {c : CodePoint} (h : c ∈ zeros n) :
    c.isAsciiDigit = true := by
  rw [List.eq_of_mem_replicate h]
  decide

namespace Json

/-! The parts of a number. -/

section Parts

variable {whole places rest : Text}

theorem stops_dot (t : Text) : Stops (CodePoint.dot :: t) := by
  intro c hc
  obtain rfl : CodePoint.dot = c := by simpa using hc
  decide

theorem takePlaces_append (hp : places ≠ []) (hd : ∀ c ∈ places, c.isAsciiDigit = true)
    (h : Stops rest) : takePlaces (CodePoint.dot :: (places ++ rest)) = (places, rest) := by
  obtain ⟨htake, hdrop⟩ := takeWhile_append_of_stops hd h
  simp [takePlaces, htake, hdrop, hp]

/-- An exponent is read with its sign, however many zeros it is filled with. -/
theorem takeExponent_append (style : Decimal.Style) (e : ℤ) (h : Stops rest) :
    takeExponent (0x65 :: (style.exponent e ++ rest)) = (some e, rest) := by
  let digits := Decimal.zeros (style.exponentWidth - (Decimal.natural e.natAbs).length) ++
    Decimal.natural e.natAbs
  have hd : ∀ c ∈ digits, c.isAsciiDigit = true := fun c hc =>
    (List.mem_append.mp hc).elim Decimal.isDigit_of_mem_zeros Decimal.isDigit_of_mem_natural
  have hne : digits ≠ [] := List.append_ne_nil_of_right_ne_nil _ (Decimal.natural_ne_nil _)
  have hvalue : Text.digitsValue digits = e.natAbs := by
    rw [Text.digitsValue_zeros_append, Decimal.digitsValue_natural]
  obtain ⟨htake, hdrop⟩ := takeWhile_append_of_stops hd h
  by_cases he : e < 0
  · have htext : style.exponent e = 0x2D :: digits := by
      simp only [Decimal.Style.exponent, he, if_true]
      rfl
    rw [htext]
    simp [takeExponent, htake, hdrop, hne, hvalue, abs_of_neg he]
  · have htext : style.exponent e = 0x2B :: digits := by
      simp only [Decimal.Style.exponent, he, if_false]
      rfl
    have hplus : (0x2B : CodePoint) ≠ 0x2D := by decide
    rw [htext]
    simp [takeExponent, htake, hdrop, hne, hvalue, hplus, not_lt.mp he]

variable (whole places) (negative : Bool) (start : ℕ)

/-- A number with a point and no exponent. -/
theorem readUnsigned_point (hw : IsWholePart whole) (hp : places ≠ [])
    (hd : ∀ c ∈ places, c.isAsciiDigit = true) (h : Ends rest) :
    readUnsigned negative start (whole ++ CodePoint.dot :: (places ++ rest)) =
      .ok (.float (Binary64.ofDecimal negative (Text.digitsValue (whole ++ places))
        (-places.length)), rest) := by
  simp [readUnsigned, hw.takeWhole (stops_dot _), takePlaces_append hp hd h.stops, takeExponent_of_ends h,
    hw.ne_nil, hp]

/-- A number with an exponent, with or without a point. -/
theorem readUnsigned_exponent (hw : IsWholePart whole)
    (hd : ∀ c ∈ places, c.isAsciiDigit = true) (style : Decimal.Style) (e : ℤ) (h : Ends rest) :
    readUnsigned negative start (whole ++ ((if places = [] then [] else CodePoint.dot :: places) ++
        0x65 :: (style.exponent e ++ rest))) =
      .ok (.float (Binary64.ofDecimal negative (Text.digitsValue (whole ++ places))
        (e - places.length)), rest) := by
  have hmark : Stops (0x65 :: (style.exponent e ++ rest)) := by
    intro c hc
    obtain rfl : 0x65 = c := by simpa using hc
    decide
  have hexponent := takeExponent_append style e h.stops
  by_cases hp : places = []
  · have hplaces : takePlaces (0x65 :: (style.exponent e ++ rest)) =
        ([], 0x65 :: (style.exponent e ++ rest)) := by
      have hne : (0x65 : CodePoint) ≠ CodePoint.dot := by decide
      simp [takePlaces, hne]
    simp [readUnsigned, hp, hw.takeWhole hmark, hplaces, hexponent, hw.ne_nil]
  · simp [readUnsigned, hp, hw.takeWhole (stops_dot _), takePlaces_append hp hd hmark, hexponent,
      hw.ne_nil]

end Parts

theorem IsWholePart.take {t : Text} (h : IsWholePart t) {n : ℕ} (hn : 0 < n) :
    IsWholePart (t.take n) where
  ne_nil := by simp [h.ne_nil, Nat.pos_iff_ne_zero.mp hn]
  digits c hc := h.digits c (List.mem_of_mem_take hc)
  zero hz := by
    rw [List.head?_take, if_neg (Nat.pos_iff_ne_zero.mp hn)] at hz
    rw [h.zero hz, List.take_of_length_le (by simp; omega)]

theorem isWholePart_natural_zeros {d n : ℕ} (hd : d = 0 → n = 0) :
    IsWholePart (Decimal.natural d ++ Decimal.zeros n) where
  ne_nil := List.append_ne_nil_of_left_ne_nil (Decimal.natural_ne_nil d) _
  digits c hc := (List.mem_append.mp hc).elim Decimal.isDigit_of_mem_natural
    Decimal.isDigit_of_mem_zeros
  zero hz := by
    rw [List.head?_append_of_ne_nil _ (Decimal.natural_ne_nil d)] at hz
    have hnat := (isWholePart_natural d).zero hz
    have hzero : d = 0 := by
      rw [← Decimal.digitsValue_natural d, hnat]
      rfl
    rw [hnat, hd hzero]
    rfl

/-- A text that is read as a decimal of the value of `d · 10 ^ k`. -/
def ReadsAs (d : ℕ) (k : ℤ) (t : Text) : Prop :=
  ∀ (negative : Bool) (start : ℕ) (rest : Text), Ends rest →
    ∃ d' : ℕ, ∃ k' : ℤ, (d' : ℚ) * 10 ^ k' = d * 10 ^ k ∧
      readUnsigned negative start (t ++ rest) =
        .ok (.float (Binary64.ofDecimal negative d' k'), rest)

/-! The shapes in which some digits are written. -/

section Shapes

variable {ds : Text}

theorem readsAs_behind_point (hne : ds ≠ []) (hd : ∀ c ∈ ds, c.isAsciiDigit = true) (n : ℕ) :
    ReadsAs ds.digitsValue (-(n + ds.length)) ("0." ++ Decimal.zeros n ++ ds) := by
  intro negative start rest h
  have hread := readUnsigned_point [0x30] (Decimal.zeros n ++ ds) negative start
    (isWholePart_natural 0) (List.append_ne_nil_of_right_ne_nil _ hne)
    (fun c hc => (List.mem_append.mp hc).elim Decimal.isDigit_of_mem_zeros (hd c)) h
  have hsame : Text.digitsValue ([0x30] ++ (Decimal.zeros n ++ ds)) = ds.digitsValue :=
    Text.digitsValue_zeros_append (n + 1) ds
  have hscale : ((Decimal.zeros n ++ ds).length : ℤ) = n + ds.length := by
    simp [Decimal.zeros]
  rw [hsame, hscale] at hread
  refine ⟨_, _, rfl, ?_⟩
  rw [← hread]
  simp only [List.append_assoc]
  rfl

theorem readsAs_around_point (hw : IsWholePart ds) {n : ℕ} (hn : 0 < n) (hlt : n < ds.length) :
    ReadsAs ds.digitsValue (n - ds.length) (ds.take n ++ "." ++ ds.drop n) := by
  intro negative start rest h
  have hread := readUnsigned_point (ds.take n) (ds.drop n) negative start (hw.take hn)
    (by simpa using hlt) (fun c hc => hw.digits c (List.mem_of_mem_drop hc)) h
  have hscale : -((ds.drop n).length : ℤ) = n - ds.length := by
    rw [List.length_drop]
    omega
  rw [List.take_append_drop, hscale] at hread
  refine ⟨_, _, rfl, ?_⟩
  rw [← hread]
  simp only [List.append_assoc]
  rfl

/-- Here a zero is written behind the point, and it is read as one more digit. -/
theorem readsAs_before_point {n : ℕ} (hw : IsWholePart (ds ++ Decimal.zeros n)) :
    ReadsAs ds.digitsValue n (ds ++ Decimal.zeros n ++ ".0") := by
  intro negative start rest h
  have hread := readUnsigned_point (ds ++ Decimal.zeros n) (Decimal.zeros 1) negative start hw
    (List.cons_ne_nil _ _) (fun _ => Decimal.isDigit_of_mem_zeros) h
  have hsame : Text.digitsValue (ds ++ Decimal.zeros n ++ Decimal.zeros 1) =
      ds.digitsValue * 10 ^ (n + 1) := by
    rw [List.append_assoc, Decimal.zeros, Decimal.zeros, List.replicate_append_replicate,
      ← Decimal.zeros, Text.digitsValue_append_zeros]
  rw [hsame] at hread
  refine ⟨ds.digitsValue * 10 ^ (n + 1), -1, ?_, ?_⟩
  · push_cast
    rw [pow_succ, zpow_neg_one, zpow_natCast]
    ring
  · rw [List.append_assoc]
    exact hread

theorem readsAs_exponent (hw : IsWholePart ds) (style : Decimal.Style) (e : ℤ) :
    ReadsAs ds.digitsValue (e + 1 - ds.length)
      (ds.take 1 ++ (if ds.length = 1 then [] else ("." : Text) ++ ds.drop 1) ++ "e" ++
        style.exponent e) := by
  intro negative start rest h
  have hlen : 0 < ds.length := List.length_pos_iff.mpr hw.ne_nil
  have hread := readUnsigned_exponent (ds.take 1) (ds.drop 1) negative start
    (hw.take Nat.one_pos) (fun c hc => hw.digits c (List.mem_of_mem_drop hc)) style e h
  have hscale : e - ((ds.drop 1).length : ℤ) = e + 1 - ds.length := by
    rw [List.length_drop]
    omega
  have hone : ds.drop 1 = [] ↔ ds.length = 1 := by
    rw [List.drop_eq_nil_iff]
    omega
  rw [List.take_append_drop, hscale] at hread
  simp only [hone] at hread
  refine ⟨_, _, rfl, ?_⟩
  rw [← hread]
  simp only [List.append_assoc]
  rfl

end Shapes

/-- What a style writes of a decimal is read as a decimal of the same value. -/
theorem readsAs_write (style : Decimal.Style) {d : ℕ} {k : ℤ} (hd : d = 0 → k = 0) :
    ReadsAs d k (style.write d k) := by
  have hwhole := isWholePart_natural d
  have hlen : 0 < (Decimal.natural d).length := List.length_pos_iff.mpr hwhole.ne_nil
  have hzeros (n : ℕ) := isWholePart_natural_zeros (d := d) (n := n)
  have hvalue := Decimal.digitsValue_natural d
  unfold Decimal.Style.write
  dsimp only
  generalize Decimal.natural d = ds at *
  subst hvalue
  split
  · split
    · have hread := readsAs_behind_point hwhole.ne_nil hwhole.digits (-(ds.length + k)).toNat
      rwa [show -(((-(ds.length + k)).toNat : ℤ) + ds.length) = k by omega] at hread
    · split
      · have hread := readsAs_around_point hwhole (n := (ds.length + k).toNat) (by omega) (by omega)
        rwa [show (((ds.length + k).toNat : ℤ) - ds.length) = k by omega] at hread
      · obtain ⟨n, rfl⟩ := Int.eq_ofNat_of_zero_le (show 0 ≤ k by omega)
        have hread := readsAs_before_point (hzeros n fun h => by exact_mod_cast hd h)
        rwa [show ((ds.length : ℤ) + n).toNat - ds.length = n by omega]
  · have hread := readsAs_exponent hwhole style (ds.length + k - 1)
    rwa [show (ds.length + k - 1 + 1 - ds.length : ℤ) = k by omega] at hread

theorem write_eq_cons (style : Decimal.Style) (d : ℕ) (k : ℤ) :
    ∃ c u, style.write d k = c :: u ∧ c.isAsciiDigit = true := by
  obtain ⟨c, u, hnat, hc⟩ := Decimal.natural_eq_cons d
  unfold Decimal.Style.write
  dsimp only
  rw [hnat]
  split
  · split
    · exact ⟨_, _, rfl, by decide⟩
    · rename_i hpoint
      split
      · obtain ⟨n, hn⟩ := Int.eq_succ_of_zero_lt (not_le.mp hpoint)
        exact ⟨c, _, by rw [hn]; rfl, hc⟩
      · exact ⟨c, _, rfl, hc⟩
  · exact ⟨c, _, rfl, hc⟩

/-- A number is read as it was written, with its sign and to the last digit. -/
theorem readLeaf_numberText {x : Binary64} (hx : x.IsProper) {rest : Text} (h : Ends rest) :
    readLeaf (numberText jsonWords x ++ rest) = .ok (.float x, rest) := by
  cases x with
  | nan => rfl
  | infinite negative => cases negative <;> rfl
  | finite negative s e =>
    obtain ⟨c, u, htext, hc⟩ := write_eq_cons numberStyle (Binary64.shortest s e).1
      (Binary64.shortest s e).2
    have hread (start : ℕ) : readUnsigned negative start (c :: (u ++ rest)) =
        .ok (.float (.finite negative s e), rest) := by
      obtain ⟨d, k, hvalue, hread⟩ :=
        readsAs_write numberStyle (Binary64.shortest_eq_zero hx) negative start rest h
      rw [htext, List.cons_append, Binary64.ofDecimal_of_shortest negative hx hvalue] at hread
      exact hread
    simp only [numberText, Binary64.finiteText, htext]
    cases negative with
    | false => exact (readLeaf_digit hc _).trans (hread _)
    | true => exact (readLeaf_hyphen hc _).trans (hread _)

end Json

end StorageGateway
