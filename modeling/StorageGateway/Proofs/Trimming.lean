import Mathlib.Data.List.Basic
import Mathlib.Data.List.TakeWhile
import StorageGateway.Text.Blank

/-! Taking things off the ends of a text. What is to go is lost wherever it stands at an end, and a
code point that is to stay keeps all that stands behind it, seen from that end. -/
namespace StorageGateway.Text

/-- Nothing at the end of the text meets `p`. -/
def EndsOutside (p : CodePoint → Bool) (t : Text) : Prop := ∀ c, t.getLast? = some c → p c = false

section

variable {p : CodePoint → Bool} {a t tail : Text}

theorem EndsOutside.append (h : EndsOutside p a) (hne : a ≠ []) (front : Text) :
    EndsOutside p (front ++ a) := by
  intro c hc
  rw [List.getLast?_append_of_ne_nil _ hne] at hc
  exact h c hc

theorem EndsOutside.of_forall (h : ∀ c ∈ t, p c = false) : EndsOutside p t :=
  fun c hc => h c (List.mem_of_getLast? hc)

/-- What ends in something that is to stay loses nothing. -/
theorem dropEndWhile_append_left (h : EndsOutside p a) (t : Text) :
    dropEndWhile p (a ++ t) = a ++ dropEndWhile p t := by
  have hstay : a.reverse.dropWhile p = a.reverse := by
    cases hr : a.reverse with
    | nil => rfl
    | cons c rest =>
      have hlast : a.getLast? = some c := by rw [← List.head?_reverse, hr]; rfl
      exact List.dropWhile_cons_of_neg (by simp [h c hlast])
  unfold dropEndWhile
  rw [List.reverse_append, List.dropWhile_append]
  split
  · rename_i hnil
    simp [List.isEmpty_iff.mp hnil, hstay]
  · simp

theorem dropEndWhile_of_endsOutside (h : EndsOutside p t) : dropEndWhile p t = t := by
  simpa [dropEndWhile] using dropEndWhile_append_left h []

theorem dropEndWhile_append_right (t : Text) (h : ∀ c ∈ tail, p c = true) :
    dropEndWhile p (t ++ tail) = dropEndWhile p t := by
  unfold dropEndWhile
  rw [List.reverse_append, List.dropWhile_append_of_pos fun c hc => h c (List.mem_reverse.mp hc)]

theorem endsOutside_dropEndWhile (p : CodePoint → Bool) (t : Text) :
    EndsOutside p (dropEndWhile p t) := by
  intro c hc
  unfold dropEndWhile at hc
  rw [List.getLast?_reverse] at hc
  have hhead := List.head?_dropWhile_not p t.reverse
  rw [hc] at hhead
  exact hhead

/-- What is lost at the end. -/
theorem dropEndWhile_append (p : CodePoint → Bool) (t : Text) :
    ∃ tail, t = dropEndWhile p t ++ tail ∧ ∀ c ∈ tail, p c = true := by
  refine ⟨(t.reverse.takeWhile p).reverse, ?_, fun c hc => ?_⟩
  · rw [dropEndWhile, ← List.reverse_append, List.takeWhile_append_dropWhile, List.reverse_reverse]
  · exact List.mem_takeWhile_imp (List.mem_reverse.mp hc)

end

/-- White space in front of a text and behind it is lost, whatever the text has inside. -/
theorem trim_enclosed {before t after : Text} (hb : ∀ c ∈ before, c.isBlank = true)
    (ht : ∀ c, t.head? = some c → c.isBlank = false) (ha : ∀ c ∈ after, c.isBlank = true) :
    trim (before ++ (t ++ after)) = trimEnd t := by
  unfold trim trimStart trimEnd
  rw [List.dropWhile_append_of_pos hb]
  cases t with
  | nil =>
    have hnone : after.dropWhile CodePoint.isBlank = [] := List.dropWhile_eq_nil_iff.mpr ha
    rw [List.nil_append, hnone]
  | cons c t =>
    rw [List.cons_append, List.dropWhile_cons_of_neg (by simp [ht c rfl]), ← List.cons_append,
      dropEndWhile_append_right _ ha]

theorem trim_of_no_blank {t : Text} (h : ∀ c ∈ t, c.isBlank = false) : trim t = t := by
  have hstart : trimStart t = t := by
    cases t with
    | nil => rfl
    | cons c t => exact trimStart_eq_self (h c List.mem_cons_self)
  rw [trim, hstart]
  exact dropEndWhile_of_endsOutside (.of_forall h)

/-- What is no white space at the start is not taken off from the end. -/
theorem exists_trimEnd_cons {c : CodePoint} (hc : c.isBlank = false) (t : Text) :
    ∃ u, trimEnd (c :: t) = c :: u :=
  ⟨trimEnd t, dropEndWhile_append_left (a := [c]) (by simpa [EndsOutside] using hc) t⟩

/-- White space is taken off once. -/
theorem trim_trim (t : Text) : t.trim.trim = t.trim := by
  have hstart : trimStart t.trim = t.trim := by
    unfold trim
    cases hu : trimStart t with
    | nil => rfl
    | cons c u =>
      have hc := List.head?_dropWhile_not CodePoint.isBlank t
      rw [show t.dropWhile CodePoint.isBlank = c :: u from hu] at hc
      obtain ⟨v, hv⟩ := exists_trimEnd_cons hc u
      rw [hv]
      exact trimStart_eq_self hc
  rw [trim, hstart]
  exact dropEndWhile_of_endsOutside (endsOutside_dropEndWhile CodePoint.isBlank _)

theorem withoutTrailing_append_self (p t : Text) : withoutTrailing p (t ++ p) = t := by
  have h : p.isSuffixOf? (t ++ p) = some t := List.isSuffixOf?_eq_some_iff_append_eq.mpr rfl
  rw [withoutTrailing, h]
  rfl

theorem withoutTrailing_append (p t : Text) :
    t = withoutTrailing p t ∨ t = withoutTrailing p t ++ p := by
  unfold withoutTrailing
  cases h : p.isSuffixOf? t with
  | none => exact .inl rfl
  | some rest => exact .inr (List.isSuffixOf?_eq_some_iff_append_eq.mp h).symm

theorem withoutTrailing_of_not_suffix {p t : Text} (h : ¬ p <:+ t) : withoutTrailing p t = t := by
  unfold withoutTrailing
  cases hs : p.isSuffixOf? t with
  | none => rfl
  | some rest => exact absurd ⟨rest, List.isSuffixOf?_eq_some_iff_append_eq.mp hs⟩ h

theorem withoutLeading_append_self (p t : Text) : withoutLeading p (p ++ t) = t := by
  have h : p.isPrefixOf? (p ++ t) = some t := List.isPrefixOf?_eq_some_iff_append_eq.mpr rfl
  rw [withoutLeading, h]
  rfl

end StorageGateway.Text
