import StorageGateway.Text.Basic

/-! Texts without the sequences that set colours in a terminal: escape, an opening bracket,
parameters, and a letter. -/
namespace StorageGateway.Text

def escapeControl : CodePoint := 0x1B

def isStyleParameter (c : CodePoint) : Bool :=
  c.isAsciiDigit || c == CodePoint.semicolon || c == CodePoint.questionMark

/-- The length of a styling sequence in front, if there is one. -/
def stylingLength? (t : Text) : Option Nat :=
  match t with
  | a :: b :: rest =>
    if a = escapeControl ∧ b = CodePoint.openBracket then
      match rest.dropWhile isStyleParameter with
      | c :: _ =>
        if c.isAsciiLetter then some ((rest.takeWhile isStyleParameter).length + 3) else none
      | [] => none
    else none
  | _ => none

/-- Drops `skip` code points, and then each styling sequence. -/
def unstyledAfter : Nat → Text → Text
  | _, [] => []
  | skip + 1, _ :: t => unstyledAfter skip t
  | 0, c :: t =>
    match stylingLength? (c :: t) with
    | some n => unstyledAfter (n - 1) t
    | none => c :: unstyledAfter 0 t

def unstyled (t : Text) : Text := unstyledAfter 0 t

theorem stylingLength?_eq_none {c : CodePoint} (h : c ≠ escapeControl) (t : Text) :
    stylingLength? (c :: t) = none := by
  cases t <;> simp [stylingLength?, h]

/-- A text without an escape control stays as it is. -/
theorem unstyled_of_plain {t : Text} (h : escapeControl ∉ t) : unstyled t = t := by
  unfold unstyled
  induction t with
  | nil => rfl
  | cons c t ih =>
    simp only [List.mem_cons, not_or] at h
    simp [unstyledAfter, stylingLength?_eq_none (Ne.symm h.1), ih h.2]

example :
    unstyled (Text.ofString "a\x1b[1;31mb\x1b[0mc\x1b[") = Text.ofString "abc\x1b[" := by decide

end StorageGateway.Text
