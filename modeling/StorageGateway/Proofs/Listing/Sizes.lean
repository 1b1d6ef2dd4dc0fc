import StorageGateway.Listing.View
import StorageGateway.Proofs.Binary64.Integers
import StorageGateway.Proofs.Binary64.Places

/-! Sizes are shown correctly rounded. A size of at most `2 ^ 53` KiB becomes a number exactly, and
so does its quotient in GiB: what is shown is rounded once, to hundredths. -/
namespace StorageGateway.Listing.Size

/-- The values that a gateway may write for an integer: a number, with a point or without, or the
text of the integer in decimal. -/
inductive StandsFor (k : ℤ) : Json → Prop
  | integer : StandsFor k (.int k)
  | number {x : Binary64} (h : x.value? = some (k : ℚ)) : StandsFor k (.float x)
  | text : StandsFor k (.str (Decimal.integer k))

variable {k : ℤ} {v : Json}

theorem number?_of_standsFor (hk : k.natAbs ≤ 2 ^ 53) (hv : StandsFor k v) :
    ∃ x, number? v = .ok (some x) ∧ x.value? = some (k : ℚ) := by
  have hinteger := Binary64.value?_ofInteger hk
  cases hv with
  | integer =>
    refine ⟨_, ?_, hinteger⟩
    simp only [number?, Binary64.ofInt?_of_short hk]
  | number h => exact ⟨_, rfl, h⟩
  | text =>
    refine ⟨_, ?_, hinteger⟩
    simp only [number?, Binary64.read?_integer]

theorem text_of_standsFor (hk : k.natAbs ≤ 2 ^ 53) (hv : StandsFor k v) :
    ∃ t r, text v = .ok t ∧ Decimal.IsWritten 2 r t ∧ Decimal.IsRounded 2 (k / 2 ^ 20) r := by
  obtain ⟨x, hx, hvalue⟩ := number?_of_standsFor hk hv
  have hshifted := Binary64.value?_shiftedDown hk hvalue (n := unitShift) (by decide)
  obtain ⟨r, hrounded, hwritten⟩ := Binary64.fixedText_of_value hshifted shownPlaces
  refine ⟨gibText x, r, ?_, hwritten, hrounded⟩
  rw [text, hx]
  rfl

/-- A value of a column of sizes is what its cell shows. -/
theorem render_of_standsFor (hv : StandsFor k v) {c : Column} (hc : c ∈ View.volumes.columns)
    (hf : c.field = "sizeInKb") {row : Row} (hrow : row.get? "sizeInKb" = some v) :
    c.render row = text v := by
  have hcolumns : ∀ c ∈ View.volumes.columns, c.field = "sizeInKb" → c.format = .size := by
    simp [View.volumes]
    decide
  rw [← hf] at hrow
  cases hv <;> simp [Column.render, hrow, hcolumns c hc hf, Format.text]

/-- The size of `k` KiB is shown in GiB with two places after the point, as the decimal nearest to
the quotient and the one with the even last digit if there are two. So half a hundredth is lost at
most, and a greater size is never shown as a smaller one. -/
theorem shown_rounded (hk : k.natAbs ≤ 2 ^ 53) (hv : StandsFor k v) :
    ∃ t r, text v = .ok t ∧ Decimal.IsWritten 2 r t ∧ Decimal.IsRounded 2 (k / 2 ^ 20) r ∧
      |r - k / 2 ^ 20| ≤ 5 / 1000 ∧
      (∀ (l : ℤ) (u : Json) (s : Text) (p : ℚ), l.natAbs ≤ 2 ^ 53 → StandsFor l u → k ≤ l →
        text u = .ok s → Decimal.IsWritten 2 p s → r ≤ p) ∧
      ∀ c ∈ View.volumes.columns, c.field = "sizeInKb" → ∀ row : Row,
        row.get? "sizeInKb" = some v → c.render row = .ok t := by
  obtain ⟨t, r, htext, hwritten, hrounded⟩ := text_of_standsFor hk hv
  refine ⟨t, r, htext, hwritten, hrounded, ?_, ?_, ?_⟩
  · have herror := hrounded.error_le
    norm_num at herror ⊢
    exact herror
  · intro l u s p hl hu hle hs hp
    obtain ⟨s', p', hs', hwritten', hrounded'⟩ := text_of_standsFor hl hu
    obtain rfl : s = s' := Except.ok.inj (hs.symm.trans hs')
    obtain rfl : p = p' := hp.value_eq hwritten'
    refine hrounded.mono hrounded' ?_
    gcongr
  · intro c hc hf row hrow
    rw [render_of_standsFor hv hc hf hrow, htext]

/-- An eighth of a GiB, half-way between two hundredths and given as a text. -/
theorem shown_rounded_at_tie :
    (131072 : ℤ).natAbs ≤ 2 ^ 53 ∧ StandsFor 131072 (.str "131072") ∧
      text (.str "131072") = .ok "0.12" ∧
      ∃ r, Decimal.IsWritten 2 r "0.12" ∧ Decimal.IsRounded 2 (1 / 8) r := by
  have hk : (131072 : ℤ).natAbs ≤ 2 ^ 53 := by decide
  have hv : StandsFor 131072 (.str "131072") := .text
  have hread : Binary64.read? "131072" = some (Binary64.ofRatio false 131072 1) := by
    decide +kernel
  have hgib : gibText (Binary64.ofRatio false 131072 1) = "0.12" := by decide +kernel
  have hshown : text (.str "131072") = .ok "0.12" := by
    simp only [text, number?, hread, ← hgib]
    rfl
  obtain ⟨t, r, htext, hwritten, hrounded, -⟩ := shown_rounded hk hv
  obtain rfl : t = "0.12" := Except.ok.inj (htext.symm.trans hshown)
  refine ⟨hk, hv, hshown, r, hwritten, ?_⟩
  norm_num at hrounded
  exact hrounded

end StorageGateway.Listing.Size
