import Mathlib.Data.List.TakeWhile
import StorageGateway.Url.Join

/-! Where a URL leads: its scheme and its authority. Both are read off the front of a text, and what
follows an authority does not count. A reference that is resolved against a base of the web leads to
the base, except where it names a scheme or an authority of its own. -/
namespace StorageGateway

namespace Text

/-- The first separator is where it was when more follows. -/
theorem splitFirst?_append {sep : CodePoint} {t a b : Text} (h : splitFirst? sep t = some (a, b))
    (more : Text) : splitFirst? sep (t ++ more) = some (a, b ++ more) := by
  induction t generalizing a with
  | nil => cases h
  | cons c t ih =>
    rw [List.cons_append]
    unfold splitFirst? at h ⊢
    split
    · rename_i hc
      rw [if_pos hc] at h
      cases h
      rfl
    · rename_i hc
      rw [if_neg hc] at h
      obtain ⟨⟨front, rest⟩, hf, hp⟩ := Option.map_eq_some_iff.mp h
      cases hp
      rw [ih hf]
      rfl

theorem eq_of_splitFirst? {sep : CodePoint} {t a b : Text} (h : splitFirst? sep t = some (a, b)) :
    t = a ++ sep :: b := by
  induction t generalizing a with
  | nil => cases h
  | cons c t ih =>
    unfold splitFirst? at h
    split at h
    · rename_i hc
      cases h
      rw [hc]
      rfl
    · obtain ⟨⟨front, rest⟩, hf, hp⟩ := Option.map_eq_some_iff.mp h
      cases hp
      rw [ih hf]
      rfl

end Text

namespace Url

structure Origin where
  scheme : Text
  authority : Text
  deriving DecidableEq

def Parts.origin (p : Parts) : Origin := ⟨p.scheme, p.authority⟩

/-- The scheme and the authority in front of a text; `scheme` stands in where it names none. -/
def front (scheme t : Text) : Origin :=
  let (scheme, rest) := (splitScheme? (clean t)).getD (scheme, clean t)
  ⟨scheme, (splitAuthority rest).1⟩

/-- The text can be taken apart and leads there. -/
def Leads (scheme t : Text) (o : Origin) : Prop := ∃ p, split scheme t = .ok p ∧ p.origin = o

/-- Taking a text apart is looking at its front, checking the authority, and no more can fail. -/
theorem split_eq (scheme t : Text) :
    ∃ p : Parts, p.origin = front scheme t ∧ split scheme t =
      (checkBrackets (front scheme t).authority >>= fun _ =>
        checkFolding (front scheme t).authority >>= fun _ => .ok p) := by
  refine ⟨_, ?_, rfl⟩
  rfl

/-- Whether an authority is well written decides whether a text can be taken apart. -/
theorem leads_iff {scheme t : Text} {o : Origin} :
    Leads scheme t o ↔
      front scheme t = o ∧
        checkBrackets o.authority = .ok () ∧ checkFolding o.authority = .ok () := by
  obtain ⟨p, ho, hs⟩ := split_eq scheme t
  constructor
  · rintro ⟨q, h, rfl⟩
    rw [hs] at h
    cases hb : checkBrackets (front scheme t).authority with
    | error fault => rw [hb] at h; cases h
    | ok u =>
      cases hf : checkFolding (front scheme t).authority with
      | error fault => rw [hb, hf] at h; cases h
      | ok v =>
        rw [hb, hf] at h
        cases h
        rw [ho]
        exact ⟨rfl, hb, hf⟩
  · rintro ⟨rfl, hb, hf⟩
    rw [hb, hf] at hs
    exact ⟨p, hs, ho⟩

theorem Leads.unique {scheme t : Text} {o q : Origin} (h : Leads scheme t o)
    (h' : Leads scheme t q) : o = q :=
  (leads_iff.mp h).1.symm.trans (leads_iff.mp h').1

theorem leads_of_split {scheme t : Text} {p : Parts} (h : split scheme t = .ok p) :
    Leads scheme t p.origin :=
  ⟨p, h, rfl⟩

/-! What is skipped when a text is read. -/

theorem not_isLineMark_of_endsAuthority {c : CodePoint} (h : endsAuthority c = true) :
    isLineMark c = false := by
  simp only [endsAuthority, Bool.or_eq_true, beq_iff_eq] at h
  rcases h with (rfl | rfl) | rfl <;> rfl

theorem isLineMark_of_mem_clean {t : Text} {c : CodePoint} (h : c ∈ clean t) :
    isLineMark c = false := by
  have hf := (List.mem_filter.mp h).2
  simpa using hf

/-- What comes behind a text is not skipped, unless it starts like something that is. -/
theorem clean_append (t : Text) {tail : Text}
    (h : ∀ c, tail.head? = some c → isLeadingJunk c = false) :
    clean (t ++ tail) = clean t ++ tail.filter (!isLineMark ·) := by
  have hd : (t ++ tail).dropWhile isLeadingJunk = t.dropWhile isLeadingJunk ++ tail := by
    rw [List.dropWhile_append]
    split
    · rename_i hn
      rw [List.isEmpty_iff.mp hn, List.nil_append]
      cases tail with
      | nil => rfl
      | cons c tail => exact List.dropWhile_cons_of_neg (by simp [h c rfl])
    · rfl
  rw [clean, hd, List.filter_append]
  rfl

theorem clean_append_slash (t : Text) :
    clean (t ++ [CodePoint.slash]) = clean t ++ [CodePoint.slash] := by
  refine clean_append t fun c hc => ?_
  cases hc
  rfl

theorem clean_cons {c : CodePoint} (t : Text) (h : isLeadingJunk c = false) :
    clean (c :: t) = (c :: t).filter (!isLineMark ·) := by
  rw [clean, List.dropWhile_cons_of_neg (by simp [h])]

/-- A text that can follow an authority: it is empty or starts with a mark that ends one. -/
def Closes (t : Text) : Prop := ∀ c, t.head? = some c → endsAuthority c = true

theorem Closes.nil : Closes [] := nofun

theorem Closes.slash : Closes [CodePoint.slash] := fun c hc => by cases hc; rfl

theorem Closes.append {a b : Text} (ha : Closes a) (hb : Closes b) : Closes (a ++ b) := by
  cases a with
  | nil => exact hb
  | cons c a => exact ha

theorem Closes.marked {mark : CodePoint} (h : endsAuthority mark = true) (t : Text) :
    Closes (marked mark t) := by
  unfold Url.marked
  split
  · exact Closes.nil
  · rintro c hc
    cases hc
    exact h

/-- No line mark closes an authority, so leaving them out changes nothing there. -/
theorem Closes.filter {t : Text} (h : Closes t) : Closes (t.filter (!isLineMark ·)) := by
  cases t with
  | nil => exact Closes.nil
  | cons c t =>
    have hc : isLineMark c = false := not_isLineMark_of_endsAuthority (h c rfl)
    rw [List.filter_cons_of_pos (by simp [hc])]
    exact h

/-! The authority of a text. -/

theorem takeWhile_append_of_closes (t : Text) {tail : Text} (h : Closes tail) :
    (t ++ tail).takeWhile (!endsAuthority ·) = t.takeWhile (!endsAuthority ·) := by
  rw [List.takeWhile_append]
  split
  · rename_i hl
    have ht : t.takeWhile (!endsAuthority ·) = t := (List.takeWhile_sublist _).eq_of_length hl
    cases tail with
    | nil => rw [List.takeWhile_nil, List.append_nil, ht]
    | cons c tail =>
      rw [List.takeWhile_cons_of_neg (by simp [h c rfl]), List.append_nil, ht]
  · rfl

/-- What may follow an authority changes none that has begun. -/
theorem splitAuthority_append {t tail : Text} (h : 2 ≤ t.length) (ht : Closes tail) :
    (splitAuthority (t ++ tail)).1 = (splitAuthority t).1 := by
  match t with
  | [] => simp at h
  | [_] => simp at h
  | a :: b :: r =>
    unfold splitAuthority
    dsimp only [List.cons_append]
    split
    · exact takeWhile_append_of_closes r ht
    · rfl

theorem length_of_splitAuthority {t : Text} (h : (splitAuthority t).1 ≠ []) : 2 ≤ t.length := by
  match t with
  | [] => exact absurd rfl h
  | [_] => exact absurd rfl h
  | _ :: _ :: _ => simp

theorem splitAuthority_slashes {a tail : Text} (ha : ∀ c ∈ a, endsAuthority c = false)
    (ht : Closes tail) :
    (splitAuthority (CodePoint.slash :: CodePoint.slash :: (a ++ tail))).1 = a := by
  have hall : ∀ c ∈ a, (!endsAuthority c) = true := fun c hc => by rw [ha c hc]; rfl
  unfold splitAuthority
  dsimp only
  rw [if_pos ⟨rfl, rfl⟩, takeWhile_append_of_closes a ht]
  exact List.takeWhile_eq_self_iff.mpr hall

theorem mem_of_mem_splitAuthority {t : Text} {c : CodePoint} (h : c ∈ (splitAuthority t).1) :
    c ∈ t ∧ endsAuthority c = false := by
  unfold splitAuthority at h
  split at h
  · rename_i a b r
    split at h
    · have hp := List.mem_takeWhile_imp h
      have hr : c ∈ r := (List.takeWhile_sublist _).subset h
      exact ⟨List.mem_cons_of_mem _ (List.mem_cons_of_mem _ hr), by simpa using hp⟩
    · cases h
  · cases h

/-! The scheme of a text. -/

theorem splitScheme?_eq_some {t scheme rest : Text} :
    splitScheme? t = some (scheme, rest) ↔
      ∃ c name, Text.splitFirst? CodePoint.colon t = some (c :: name, rest) ∧
        (c.isAsciiLetter && name.all isSchemeMark) = true ∧
        scheme = (c :: name).map CodePoint.asciiLower := by
  unfold splitScheme?
  constructor
  · intro h
    split at h
    · rename_i c name tail hs
      split at h
      · rename_i hc
        cases h
        exact ⟨c, name, hs, hc, rfl⟩
      · cases h
    · cases h
  · rintro ⟨c, name, hs, hc, rfl⟩
    rw [hs]
    exact if_pos hc

theorem splitScheme?_append {t scheme rest : Text} (h : splitScheme? t = some (scheme, rest))
    (more : Text) : splitScheme? (t ++ more) = some (scheme, rest ++ more) := by
  obtain ⟨c, name, hs, hc, he⟩ := splitScheme?_eq_some.mp h
  exact splitScheme?_eq_some.mpr ⟨c, name, Text.splitFirst?_append hs more, hc, he⟩

theorem mem_of_splitScheme? {t scheme rest : Text} (h : splitScheme? t = some (scheme, rest))
    {c : CodePoint} (hc : c ∈ rest) : c ∈ t := by
  obtain ⟨d, name, hs, -, -⟩ := splitScheme?_eq_some.mp h
  rw [Text.eq_of_splitFirst? hs]
  exact List.mem_append_right _ (List.mem_cons_of_mem _ hc)

/-- What an authority that was read is made of. -/
theorem mem_clean_of_mem_front {scheme t : Text} {c : CodePoint}
    (h : c ∈ (front scheme t).authority) : c ∈ clean t ∧ endsAuthority c = false := by
  unfold front at h
  dsimp only at h
  obtain ⟨hm, he⟩ := mem_of_mem_splitAuthority h
  refine ⟨?_, he⟩
  cases hs : splitScheme? (clean t) with
  | none =>
    rw [hs] at hm
    exact hm
  | some found =>
    rw [hs] at hm
    exact mem_of_splitScheme? hs hm

/-- A scheme that does not stand in for a missing one is in the text. -/
theorem front_of_named {scheme t : Text} (h : (front scheme t).scheme ≠ scheme) (other : Text) :
    front other t = front scheme t := by
  unfold front at h ⊢
  cases hs : splitScheme? (clean t) with
  | none =>
    rw [hs] at h
    exact absurd rfl h
  | some found => rfl

theorem Leads.of_named {scheme t : Text} {o : Origin} (h : Leads scheme t o)
    (hne : o.scheme ≠ scheme) (other : Text) : Leads other t o := by
  obtain ⟨rfl, hc⟩ := leads_iff.mp h
  exact leads_iff.mpr ⟨front_of_named hne other, hc⟩

/-- With a slash behind it a URL with scheme and authority leads where it led. -/
theorem Leads.append_slash {t : Text} {o : Origin} (h : Leads [] t o) (hs : o.scheme ≠ [])
    (ha : o.authority ≠ []) : Leads [] (t ++ [CodePoint.slash]) o := by
  obtain ⟨rfl, hc⟩ := leads_iff.mp h
  refine leads_iff.mpr ⟨?_, hc⟩
  unfold front at hs ha ⊢
  rw [clean_append_slash]
  cases hf : splitScheme? (clean t) with
  | none =>
    rw [hf] at hs
    exact absurd rfl hs
  | some found =>
    rw [hf] at ha
    rw [splitScheme?_append hf]
    exact congrArg (Origin.mk found.1)
      (splitAuthority_append (length_of_splitAuthority ha) .slash)

/-! The schemes of the web. -/

def IsWebScheme (scheme : Text) : Prop := scheme = "http" ∨ scheme = "https"

namespace IsWebScheme

variable {scheme : Text}

theorem ne_nil (h : IsWebScheme scheme) : scheme ≠ [] := by
  rcases h with rfl | rfl
  · exact List.cons_ne_nil _ _
  · exact List.cons_ne_nil _ _

theorem mem_relativeSchemes (h : IsWebScheme scheme) : scheme ∈ relativeSchemes := by
  rcases h with rfl | rfl <;> decide +kernel

theorem mem_authoritySchemes (h : IsWebScheme scheme) : scheme ∈ authoritySchemes := by
  rcases h with rfl | rfl <;> decide +kernel

theorem clean_append (h : IsWebScheme scheme) (t : Text) :
    clean (scheme ++ t) = scheme ++ t.filter (!isLineMark ·) := by
  have hf : scheme.filter (!isLineMark ·) = scheme := by
    rcases h with rfl | rfl <;> decide +kernel
  have hc : clean (scheme ++ t) = (scheme ++ t).filter (!isLineMark ·) := by
    rcases h with rfl | rfl
    · exact clean_cons _ rfl
    · exact clean_cons _ rfl
  rw [hc, List.filter_append, hf]

theorem splitScheme?_colon (h : IsWebScheme scheme) (t : Text) :
    splitScheme? (scheme ++ CodePoint.colon :: t) = some (scheme, t) := by
  rcases h with rfl | rfl <;> rfl

/-- Reading a scheme, two slashes, an authority and what may follow gives the first two back. -/
theorem front_written (h : IsWebScheme scheme) {authority tail : Text}
    (ha : ∀ c ∈ authority, endsAuthority c = false ∧ isLineMark c = false) (ht : Closes tail)
    (other : Text) :
    front other (scheme ++ CodePoint.colon :: CodePoint.slash :: CodePoint.slash ::
      (authority ++ tail)) = ⟨scheme, authority⟩ := by
  have hf : authority.filter (!isLineMark ·) = authority :=
    List.filter_eq_self.mpr fun c hc => by rw [(ha c hc).2]; rfl
  have hc : clean (scheme ++ CodePoint.colon :: CodePoint.slash :: CodePoint.slash ::
      (authority ++ tail)) = scheme ++ CodePoint.colon :: CodePoint.slash :: CodePoint.slash ::
        (authority ++ tail.filter (!isLineMark ·)) := by
    rw [h.clean_append]
    change scheme ++ CodePoint.colon :: CodePoint.slash :: CodePoint.slash ::
      (authority ++ tail).filter (!isLineMark ·) = _
    rw [List.filter_append, hf]
  unfold front
  rw [hc, h.splitScheme?_colon]
  exact congrArg (Origin.mk scheme) (splitAuthority_slashes (fun c hc => (ha c hc).1) ht.filter)

end IsWebScheme

/-! What is written leads where its parts say. -/

theorem Parts.write_eq {p : Parts} (hs : p.scheme ≠ []) (ha : p.authority ≠ []) :
    ∃ tail, Closes tail ∧ p.write = p.scheme ++ CodePoint.colon :: CodePoint.slash ::
      CodePoint.slash :: (p.authority ++ tail) := by
  let path := p.path ++ marked CodePoint.semicolon p.params
  let rooted :=
    if path ≠ [] ∧ path.head? ≠ some CodePoint.slash then CodePoint.slash :: path else path
  have hrooted : Closes rooted := by
    intro c hc
    simp only [rooted] at hc
    split at hc
    · cases hc
      rfl
    · rename_i hn
      by_cases he : path = []
      · rw [he] at hc
        cases hc
      · by_cases hh : path.head? = some CodePoint.slash
        · rw [hh] at hc
          cases hc
          rfl
        · exact absurd ⟨he, hh⟩ hn
  refine ⟨rooted ++ marked CodePoint.questionMark p.query ++
    marked CodePoint.numberSign p.fragment,
    (hrooted.append (.marked rfl _)).append (.marked rfl _), ?_⟩
  unfold Parts.write writeAuthority
  rw [if_neg hs, if_pos (.inl ha)]
  simp only [List.append_assoc, List.cons_append, List.nil_append]
  rfl

/-- Writing parts whose authority was read somewhere gives a URL that leads there. -/
theorem Parts.write_leads {p : Parts} (hs : IsWebScheme p.scheme) (ha : p.authority ≠ [])
    {scheme t : Text} {o : Origin} (h : Leads scheme t o) (he : o.authority = p.authority) :
    Leads [] p.write p.origin := by
  obtain ⟨hf, hb, hn⟩ := leads_iff.mp h
  obtain ⟨tail, ht, hw⟩ := p.write_eq hs.ne_nil ha
  have hmem : ∀ c ∈ p.authority, endsAuthority c = false ∧ isLineMark c = false := by
    intro c hc
    rw [← he, ← hf] at hc
    obtain ⟨hm, hn⟩ := mem_clean_of_mem_front hc
    exact ⟨hn, isLineMark_of_mem_clean hm⟩
  refine leads_iff.mpr ⟨?_, ?_, ?_⟩
  · rw [hw]
    exact hs.front_written hmem ht []
  · rw [he] at hb
    exact hb
  · rw [he] at hn
    exact hn

theorem resolveParts_origin (base : Parts) {reference : Parts}
    (h : reference.scheme ∈ authoritySchemes) :
    (resolveParts base reference).origin = ⟨reference.scheme,
      if reference.authority = [] then base.authority else reference.authority⟩ := by
  unfold resolveParts
  by_cases ha : reference.authority = []
  · rw [if_neg fun hn => hn.2 ha, if_pos ha]
    simp only [h, if_true]
    split <;> rfl
  · rw [if_pos ⟨h, ha⟩, if_neg ha]
    rfl

/-- Where a reference leads from a base: it names all that it has of its own. -/
def Origin.follow (base reference : Origin) : Origin :=
  if reference.scheme = base.scheme ∧ reference.authority = [] then base else reference

/-- It leads back to the base exactly when it names nothing else. -/
theorem Origin.follow_eq_iff {base reference : Origin} :
    base.follow reference = base ↔
      reference.scheme = base.scheme ∧
        (reference.authority = [] ∨ reference.authority = base.authority) := by
  obtain ⟨scheme, authority⟩ := base
  obtain ⟨name, owner⟩ := reference
  unfold follow
  dsimp only
  split
  · rename_i h
    exact ⟨fun _ => ⟨h.1, .inl h.2⟩, fun _ => rfl⟩
  · rename_i h
    rw [Origin.mk.injEq]
    constructor
    · rintro ⟨hs, ha⟩
      exact ⟨hs, .inr ha⟩
    · rintro ⟨hs, ha | ha⟩
      · exact absurd ⟨hs, ha⟩ h
      · exact ⟨hs, ha⟩

theorem leads_nil (scheme : Text) : Leads scheme [] ⟨scheme, []⟩ := leads_iff.mpr ⟨rfl, rfl, rfl⟩

/-- A reference that is not empty is taken apart after the base. -/
theorem join_eq {base reference : Text} {p : Parts} (hb : base ≠ []) (hr : reference ≠ [])
    (hp : split [] base = .ok p) :
    join base reference = (split p.scheme reference).bind fun q =>
      if q.scheme = p.scheme ∧ q.scheme ∈ relativeSchemes then .ok (resolveParts p q).write
      else .ok reference := by
  unfold join
  rw [if_neg hb, if_neg hr, hp]
  rfl

/-- What is resolved within the scheme of a base on the web leads where the reference leads. -/
theorem write_resolveParts_leads {base t : Text} {p q : Parts} (hp : split [] base = .ok p)
    (hq : split p.scheme t = .ok q) (hs : IsWebScheme p.scheme) (ha : p.authority ≠ [])
    (he : q.scheme = p.scheme) :
    Leads [] (resolveParts p q).write (p.origin.follow q.origin) := by
  have hmem : q.scheme ∈ authoritySchemes := by
    rw [he]
    exact hs.mem_authoritySchemes
  have horigin := resolveParts_origin p hmem
  have hweb : IsWebScheme (resolveParts p q).scheme := by
    rw [show (resolveParts p q).scheme = q.scheme from congrArg Origin.scheme horigin, he]
    exact hs
  have hauthority : (resolveParts p q).authority =
      if q.authority = [] then p.authority else q.authority := congrArg Origin.authority horigin
  by_cases hn : q.authority = []
  · rw [if_pos hn] at hauthority
    have hfollow : p.origin.follow q.origin = (resolveParts p q).origin := by
      rw [horigin, Origin.follow, if_pos ⟨he, hn⟩, if_pos hn, he]
      rfl
    rw [hfollow]
    exact Parts.write_leads hweb (by rw [hauthority]; exact ha) (leads_of_split hp) hauthority.symm
  · rw [if_neg hn] at hauthority
    have hfollow : p.origin.follow q.origin = (resolveParts p q).origin := by
      rw [horigin, Origin.follow, if_neg fun h => hn h.2, if_neg hn]
      rfl
    rw [hfollow]
    exact Parts.write_leads hweb (by rw [hauthority]; exact hn) (leads_of_split hq) hauthority.symm

/-- Joining fails only where the reference cannot be taken apart; otherwise the result leads where
the reference leads from the base. -/
theorem join_leads {base : Text} {b : Origin} (hb : Leads [] base b) (hs : IsWebScheme b.scheme)
    (ha : b.authority ≠ []) (reference : Text) :
    (∃ fault, split b.scheme reference = .error fault ∧ join base reference = .error fault) ∨
    ∃ url r, join base reference = .ok url ∧ Leads b.scheme reference r ∧
      Leads [] url (b.follow r) := by
  have hbase : base ≠ [] := by
    rintro rfl
    rw [hb.unique (leads_nil [])] at ha
    exact ha rfl
  by_cases hr : reference = []
  · refine .inr ⟨base, ⟨b.scheme, []⟩, ?_, by rw [hr]; exact leads_nil _, ?_⟩
    · rw [join, if_neg hbase, if_pos hr]
    · rw [Origin.follow, if_pos ⟨rfl, rfl⟩]
      exact hb
  obtain ⟨p, hp, rfl⟩ := hb
  have hj := join_eq hbase hr hp
  cases hq : split p.scheme reference with
  | error fault =>
    rw [hq] at hj
    exact .inl ⟨fault, hq, hj⟩
  | ok q =>
    rw [hq] at hj
    change join base reference = if q.scheme = p.scheme ∧ q.scheme ∈ relativeSchemes then
      .ok (resolveParts p q).write else .ok reference at hj
    refine .inr ?_
    by_cases he : q.scheme = p.scheme
    · have hmem : q.scheme ∈ relativeSchemes := by
        rw [he]
        exact hs.mem_relativeSchemes
      rw [if_pos ⟨he, hmem⟩] at hj
      exact ⟨_, q.origin, hj, leads_of_split hq, write_resolveParts_leads hp hq hs ha he⟩
    · -- a reference with a scheme of its own is kept as it is
      rw [if_neg fun h => he h.1] at hj
      have hf : p.origin.follow q.origin = q.origin := if_neg fun h => he h.1
      refine ⟨reference, q.origin, hj, leads_of_split hq, ?_⟩
      rw [hf]
      exact (leads_of_split hq).of_named he []

end Url

end StorageGateway
