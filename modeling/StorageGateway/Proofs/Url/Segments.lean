import Mathlib.Data.List.Basic
import StorageGateway.Url.Join

/-! Paths as segments. A path of segments is taken apart into them again, and where no segment is
empty or one of dots, resolving it against a base puts its segments behind those of the base. -/
namespace StorageGateway

namespace Text

theorem splitFirst?_eq_none {sep : CodePoint} {t : Text} (h : sep ∉ t) :
    splitFirst? sep t = none := by
  induction t with
  | nil => rfl
  | cons c t ih =>
    have hc : c ≠ sep := fun he => h (he ▸ List.mem_cons_self)
    rw [splitFirst?, if_neg hc, ih fun hm => h (List.mem_cons_of_mem c hm)]
    rfl

theorem splitOn_of_not_mem {sep : CodePoint} {t : Text} (h : sep ∉ t) : splitOn sep t = [t] := by
  induction t with
  | nil => rfl
  | cons c t ih =>
    have hc : c ≠ sep := fun he => h (he ▸ List.mem_cons_self)
    rw [splitOn, if_neg hc, ih fun hm => h (List.mem_cons_of_mem c hm)]

theorem splitOn_append_cons {sep : CodePoint} {part : Text} (h : sep ∉ part) (t : Text) :
    splitOn sep (part ++ sep :: t) = part :: splitOn sep t := by
  induction part with
  | nil => rw [List.nil_append, splitOn, if_pos rfl]
  | cons c part ih =>
    have hc : c ≠ sep := fun he => h (he ▸ List.mem_cons_self)
    rw [List.cons_append, splitOn, if_neg hc, ih fun hm => h (List.mem_cons_of_mem c hm)]

/-- The parts, each with the separator in front of it. -/
def led (sep : CodePoint) (parts : List Text) : Text := parts.flatMap (sep :: ·)

@[simp] theorem led_nil (sep : CodePoint) : led sep [] = [] := rfl

@[simp] theorem led_cons (sep : CodePoint) (part : Text) (parts : List Text) :
    led sep (part :: parts) = sep :: (part ++ led sep parts) := rfl

@[simp] theorem led_append (sep : CodePoint) (a b : List Text) :
    led sep (a ++ b) = led sep a ++ led sep b := List.flatMap_append

theorem joinWith_cons (sep : CodePoint) (part : Text) (parts : List Text) :
    joinWith [sep] (part :: parts) = part ++ led sep parts := by
  induction parts generalizing part with
  | nil => simp [joinWith]
  | cons next parts ih => rw [joinWith, ih]; simp

theorem splitOn_append_led {sep : CodePoint} {part : Text} {parts : List Text} (h : sep ∉ part)
    (hp : ∀ p ∈ parts, sep ∉ p) : splitOn sep (part ++ led sep parts) = part :: parts := by
  induction parts generalizing part with
  | nil => rw [led_nil, List.append_nil, splitOn_of_not_mem h]
  | cons next parts ih =>
    rw [led_cons, splitOn_append_cons h,
      ih (hp next List.mem_cons_self) fun p hm => hp p (List.mem_cons_of_mem next hm)]

end Text

namespace Url

/-! What a segment is made of. -/

def isSegmentMark (c : CodePoint) : Bool :=
  c.isAsciiLetter || c.isAsciiDigit || c == CodePoint.hyphen || c == CodePoint.underscore ||
    c == CodePoint.dot || c == 0x7E

/-- Behind the first segment of a path a colon names no scheme. -/
def isPathMark (c : CodePoint) : Bool := isSegmentMark c || c == CodePoint.colon

/-- A segment of these marks that stands for itself. -/
structure IsSegment (isMark : CodePoint → Bool) (segment : Text) : Prop where
  ne_nil : segment ≠ []
  marks : ∀ c ∈ segment, isMark c = true
  ne_here : segment ≠ here
  ne_above : segment ≠ above

instance decidableIsSegment (isMark : CodePoint → Bool) (segment : Text) :
    Decidable (IsSegment isMark segment) :=
  decidable_of_iff (segment ≠ [] ∧ segment.all isMark = true ∧ segment ≠ here ∧ segment ≠ above)
    ⟨fun h => ⟨h.1, List.all_eq_true.mp h.2.1, h.2.2.1, h.2.2.2⟩,
      fun h => ⟨h.ne_nil, List.all_eq_true.mpr h.marks, h.ne_here, h.ne_above⟩⟩

/-! Paths that are resolved segment by segment. -/

/-- Segments without dot segments are walked through as they are. -/
theorem resolveSegments_of_plain {segments : List Text}
    (h : ∀ s ∈ segments, s ≠ here ∧ s ≠ above) : resolveSegments segments = segments := by
  have hwalk : ∀ stack, (∀ s ∈ segments, s ≠ here ∧ s ≠ above) →
      segments.foldl walk stack = segments.reverse ++ stack := by
    clear h
    induction segments with
    | nil => exact fun stack _ => rfl
    | cons s segments ih =>
      intro stack h
      obtain ⟨hhere, habove⟩ := h s List.mem_cons_self
      rw [List.foldl_cons, walk, if_neg habove, if_neg hhere,
        ih _ fun t ht => h t (List.mem_cons_of_mem s ht)]
      simp
  have hlast : ¬(segments.getLast? = some here ∨ segments.getLast? = some above) := by
    rintro (hl | hl)
    · exact (h here (List.mem_of_getLast? hl)).1 rfl
    · exact (h above (List.mem_of_getLast? hl)).2 rfl
  rw [resolveSegments, hwalk [] h, List.append_nil, List.reverse_reverse, if_neg hlast]

theorem withoutEmptyInside_concat (first last : Text) (inner : List Text) :
    withoutEmptyInside (first :: (inner ++ [last])) =
      first :: (inner.filter (· ≠ []) ++ [last]) := by
  cases hl : inner ++ [last] with
  | nil => simp at hl
  | cons next rest =>
    have hlast : (inner ++ [last]).getLastD [] = last := by simp
    change first :: (next :: rest).dropLast.filter (· ≠ []) ++ [(next :: rest).getLastD []] = _
    rw [← hl, List.dropLast_concat, hlast, List.cons_append]

/-- A path behind another: the empty segment between them is left out. -/
theorem withoutEmptyInside_of_plain {segments path : List Text}
    (hs : ∀ s ∈ segments, s ≠ []) (hp : ∀ s ∈ path, s ≠ []) (hne : path ≠ []) :
    withoutEmptyInside ([] :: (segments ++ [[]] ++ path)) = [] :: (segments ++ path) := by
  obtain ⟨front, last, rfl⟩ : ∃ front last, path = front ++ [last] :=
    ⟨path.dropLast, path.getLast hne, (List.dropLast_append_getLast hne).symm⟩
  have hfilter : ∀ l : List Text, (∀ s ∈ l, s ≠ []) → l.filter (· ≠ []) = l := fun l hl =>
    List.filter_eq_self.mpr fun s hm => by simpa using hl s hm
  have hfront : ∀ s ∈ front, s ≠ [] := fun s hm => hp s (List.mem_append_left _ hm)
  rw [← List.append_assoc, withoutEmptyInside_concat, List.filter_append, List.filter_append,
    hfilter segments hs, hfilter front hfront]
  simp

theorem IsSegment.slash_not_mem {segment : Text} (h : IsSegment isPathMark segment) :
    CodePoint.slash ∉ segment := fun hm => absurd (h.marks _ hm) (by decide)

/-- The segments of a path come behind those of the base. -/
theorem joinPaths_of_plain {segments rest : List Text} {first : Text}
    (hs : ∀ s ∈ segments, IsSegment isPathMark s) (hf : IsSegment isPathMark first)
    (hr : ∀ s ∈ rest, IsSegment isPathMark s) :
    joinPaths (Text.led CodePoint.slash (segments ++ [[]]))
        (first ++ Text.led CodePoint.slash rest) =
      Text.led CodePoint.slash (segments ++ first :: rest) := by
  have hpath : ∀ s ∈ first :: rest, IsSegment isPathMark s := List.forall_mem_cons.mpr ⟨hf, hr⟩
  have hbase : Text.splitOn CodePoint.slash (Text.led CodePoint.slash (segments ++ [[]])) =
      [] :: (segments ++ [[]]) :=
    Text.splitOn_append_led List.not_mem_nil (List.forall_mem_append.mpr
      ⟨fun s hm => (hs s hm).slash_not_mem, List.forall_mem_singleton.mpr List.not_mem_nil⟩)
  have hsplit : Text.splitOn CodePoint.slash (first ++ Text.led CodePoint.slash rest) =
      first :: rest :=
    Text.splitOn_append_led hf.slash_not_mem fun s hm => (hr s hm).slash_not_mem
  have hhead : (first ++ Text.led CodePoint.slash rest).head? ≠ some CodePoint.slash := by
    rw [List.head?_append_of_ne_nil _ hf.ne_nil]
    exact fun hh => hf.slash_not_mem (List.mem_of_mem_head? hh)
  have hlast : ([] :: (segments ++ [[]])).getLast? = some ([] : Text) := by
    rw [← List.cons_append, List.getLast?_concat]
  have hfrom : segmentsFrom (Text.led CodePoint.slash (segments ++ [[]]))
      (first ++ Text.led CodePoint.slash rest) = [] :: (segments ++ first :: rest) := by
    rw [segmentsFrom, if_neg hhead, hbase, hsplit]
    dsimp only
    rw [if_pos hlast, List.cons_append]
    exact withoutEmptyInside_of_plain (fun s hm => (hs s hm).ne_nil)
      (fun s hm => (hpath s hm).ne_nil) (List.cons_ne_nil first rest)
  have hplain : ∀ s ∈ [] :: (segments ++ first :: rest), s ≠ here ∧ s ≠ above :=
    List.forall_mem_cons.mpr ⟨by decide, List.forall_mem_append.mpr
      ⟨fun s hm => ⟨(hs s hm).ne_here, (hs s hm).ne_above⟩,
        fun s hm => ⟨(hpath s hm).ne_here, (hpath s hm).ne_above⟩⟩⟩
  rw [joinPaths, hfrom, resolveSegments_of_plain hplain, Text.joinWith_cons, List.nil_append]
  exact if_neg (by simp)

end Url

end StorageGateway
