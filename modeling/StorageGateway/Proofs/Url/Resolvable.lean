import Mathlib.Data.List.Basic
import StorageGateway.Endpoint
import StorageGateway.Proofs.Trimming
import StorageGateway.Proofs.Url.Origin

/-! Addresses that cannot fail to be resolved: the endpoint is a URL of the web, of which taking off
slashes and a segment leaves a base that can be read, and the path has nothing in it that an
authority could be refused for. -/
namespace StorageGateway

namespace Text

theorem splitFirst?_append_of_none {sep : CodePoint} {t : Text} (h : splitFirst? sep t = none)
    (more : Text) :
    splitFirst? sep (t ++ more) = (splitFirst? sep more).map fun (a, b) => (t ++ a, b) := by
  induction t with
  | nil => simp
  | cons c t ih =>
    unfold splitFirst? at h
    split at h
    · cases h
    · rename_i hc
      rw [List.cons_append, splitFirst?, if_neg hc, ih (Option.map_eq_none_iff.mp h),
        Option.map_map]
      rfl

end Text

namespace Url

def isPlainMark (c : CodePoint) : Bool :=
  c.isAscii && c != CodePoint.openBracket && c != CodePoint.closeBracket

/-- A text of ASCII without brackets. -/
def IsPlain (t : Text) : Prop := ∀ c ∈ t, isPlainMark c = true

instance decidableIsPlain (t : Text) : Decidable (IsPlain t) :=
  List.decidableBAll (fun c => isPlainMark c = true) t

theorem foldsToDelimiter_of_isAscii {c : CodePoint} (h : c.isAscii = true) :
    foldsToDelimiter c = false := by
  have hall : ∀ n ∈ foldedDelimiters, 0x80 ≤ n := by decide
  unfold foldsToDelimiter
  rw [List.contains_eq_mem, decide_eq_false_iff_not]
  intro hm
  have hle := hall _ hm
  have hlt : c.val < 0x80 := by simpa [CodePoint.isAscii] using h
  omega

theorem checks_of_plain {authority : Text} (h : IsPlain authority) :
    checkBrackets authority = .ok () ∧ checkFolding authority = .ok () := by
  have hopen : authority.contains CodePoint.openBracket = false := by
    rw [List.contains_eq_mem, decide_eq_false_iff_not]
    exact fun hm => absurd (h _ hm) (by decide)
  have hclose : authority.contains CodePoint.closeBracket = false := by
    rw [List.contains_eq_mem, decide_eq_false_iff_not]
    exact fun hm => absurd (h _ hm) (by decide)
  constructor
  · unfold checkBrackets
    rw [hopen, hclose]
  · unfold checkFolding
    rw [if_neg]
    rw [Bool.not_eq_true, List.any_eq_false]
    intro c hc
    have hm := h c hc
    simp only [isPlainMark, Bool.and_eq_true] at hm
    simp [foldsToDelimiter_of_isAscii hm.1.1]

/-- A plain text can be taken apart. -/
theorem leads_of_plain (scheme : Text) {t : Text} (h : IsPlain t) :
    Leads scheme t (front scheme t) := by
  have hsub : ∀ c ∈ clean t, c ∈ t := fun c hc =>
    (List.dropWhile_sublist _).subset (List.mem_filter.mp hc).1
  exact leads_iff.mpr
    ⟨rfl, checks_of_plain fun c hc => h c (hsub c (mem_clean_of_mem_front hc).1)⟩

/-- A tail that is empty or starts with a slash, as those do that are taken off an endpoint. -/
def Trails (tail : Text) : Prop := ∀ c, tail.head? = some c → c = CodePoint.slash

namespace Trails

variable {t tail : Text}

theorem closes (h : Trails tail) : Closes tail := fun c hc => by rw [h c hc]; rfl

theorem filter (h : Trails tail) : Trails (tail.filter (!isLineMark ·)) := by
  cases tail with
  | nil => exact nofun
  | cons c tail =>
    obtain rfl : c = CodePoint.slash := h c rfl
    exact h

/-- No scheme reaches into such a tail: it would have the slash in it. -/
theorem splitScheme? (ht : Trails tail) {scheme rest : Text}
    (h : Url.splitScheme? (t ++ tail) = some (scheme, rest)) :
    ∃ r, Url.splitScheme? t = some (scheme, r) ∧ rest = r ++ tail := by
  obtain ⟨c, name, hs, hc, rfl⟩ := splitScheme?_eq_some.mp h
  cases hf : Text.splitFirst? CodePoint.colon t with
  | some found =>
    rw [Text.splitFirst?_append hf tail] at hs
    obtain ⟨hname, hrest⟩ := Prod.mk.inj (Option.some.inj hs)
    exact ⟨found.2, splitScheme?_eq_some.mpr ⟨c, name, by rw [hf, ← hname], hc, rfl⟩, hrest.symm⟩
  | none =>
    rw [Text.splitFirst?_append_of_none hf] at hs
    obtain ⟨⟨a, b⟩, hb, he⟩ := Option.map_eq_some_iff.mp hs
    obtain ⟨hname, -⟩ := Prod.mk.inj he
    have htail := Text.eq_of_splitFirst? hb
    have hslash : CodePoint.slash ∈ c :: name := by
      rw [← hname]
      cases a with
      | nil => exact absurd (ht CodePoint.colon (by rw [htail]; rfl)) (by decide)
      | cons d a =>
        rw [← ht d (by rw [htail]; rfl)]
        exact List.mem_append_right _ List.mem_cons_self
    rw [Bool.and_eq_true, List.all_eq_true] at hc
    rcases List.mem_cons.mp hslash with hm | hm
    · rw [← hm] at hc
      cases hc.1
    · cases hc.2 _ hm

end Trails

/-- What is left of a URL without such a tail can be read with a slash behind it: the authority is
the same, or the cut has gone into the slashes in front of it and none is left. -/
theorem Leads.cut {t tail : Text} {o : Origin} (h : Leads [] (t ++ tail) o) (hs : o.scheme ≠ [])
    (ht : Trails tail) : ∃ q, Leads [] (t ++ [CodePoint.slash]) q := by
  obtain ⟨rfl, hb, hf⟩ := leads_iff.mp h
  have hclean : clean (t ++ tail) = clean t ++ tail.filter (!isLineMark ·) :=
    clean_append t fun c hc => by rw [ht c hc]; rfl
  unfold front at hs hb hf
  rw [hclean] at hs hb hf
  cases hx : splitScheme? (clean t ++ tail.filter (!isLineMark ·)) with
  | none =>
    rw [hx] at hs
    exact absurd rfl hs
  | some found =>
    obtain ⟨scheme, rest⟩ := found
    obtain ⟨r, hr, rfl⟩ := ht.filter.splitScheme? hx
    have hfront : front [] (t ++ [CodePoint.slash]) =
        ⟨scheme, (splitAuthority (r ++ [CodePoint.slash])).1⟩ := by
      unfold front
      rw [clean_append_slash, splitScheme?_append hr]
      rfl
    rw [hx] at hb hf
    refine ⟨_, leads_iff.mpr ⟨hfront, ?_⟩⟩
    -- two code points are enough to tell whether an authority has begun
    by_cases hlen : 2 ≤ r.length
    · have hsame : (splitAuthority (r ++ [CodePoint.slash])).1 =
          (splitAuthority (r ++ tail.filter (!isLineMark ·))).1 := by
        rw [splitAuthority_append hlen .slash, splitAuthority_append hlen ht.filter.closes]
      dsimp only
      rw [hsame]
      exact ⟨hb, hf⟩
    · have hnone : (splitAuthority (r ++ [CodePoint.slash])).1 = [] := by
        match r with
        | [] => rfl
        | [c] =>
          unfold splitAuthority
          dsimp only [List.cons_append, List.nil_append]
          split <;> rfl
        | _ :: _ :: _ => simp at hlen
      dsimp only
      rw [hnone]
      exact ⟨rfl, rfl⟩

end Url

namespace Endpoint

open Url

/-- A URL of the web, without white space. -/
structure IsWeb (endpoint : Text) : Prop where
  unblank : ∀ c ∈ endpoint, c.isBlank = false
  leads : ∃ o, Leads [] endpoint o ∧ IsWebScheme o.scheme ∧ o.authority ≠ []

/-- What is taken off an endpoint starts with a slash. -/
theorem normalize_append {endpoint : Text} (h : ∀ c ∈ endpoint, c.isBlank = false) :
    ∃ tail, endpoint = normalize endpoint ++ tail ∧ Trails tail := by
  obtain ⟨slashes, he, hs⟩ := Text.dropEndWhile_append isSlash endpoint
  have hslashes : Trails slashes := fun c hc => by
    simpa [isSlash] using hs c (List.mem_of_mem_head? hc)
  unfold normalize
  rw [Text.trim_of_no_blank h]
  obtain hn | hn := Text.withoutTrailing_append apiSegment (Text.dropEndWhile isSlash endpoint)
  · rw [← hn]
    exact ⟨slashes, he, hslashes⟩
  · refine ⟨apiSegment ++ slashes, ?_, fun c hc => ?_⟩
    · rw [← List.append_assoc, ← hn]
      exact he
    · cases hc
      rfl

/-- Such a path is resolved at such an endpoint, wherever it leads. -/
theorem exists_resolve {endpoint path : Text} (h : IsWeb endpoint) (hp : IsPlain path) :
    ∃ url, resolve endpoint path = .ok url := by
  obtain ⟨tail, he, ht⟩ := normalize_append h.unblank
  obtain ⟨o, ho, hs, -⟩ := h.leads
  rw [he] at ho
  obtain ⟨-, b, hb, -⟩ := ho.cut hs.ne_nil ht
  obtain ⟨p, hsplit, -⟩ := leads_of_plain [] hp
  have hrest : IsPlain (path.dropWhile isSlash) := fun c hc =>
    hp c ((List.dropWhile_sublist _).subset hc)
  unfold resolve
  rw [hsplit]
  change ∃ url, (if p.scheme ≠ [] ∧ p.authority ≠ [] then Except.ok path
    else join (normalize endpoint ++ [CodePoint.slash]) (path.dropWhile isSlash)) = .ok url
  split
  · exact ⟨path, rfl⟩
  · by_cases hr : path.dropWhile isSlash = []
    · rw [hr, join, if_neg (List.append_ne_nil_of_right_ne_nil _ (List.cons_ne_nil _ _)),
        if_pos rfl]
      exact ⟨_, rfl⟩
    · obtain ⟨r, hread, -⟩ := leads_of_plain b.scheme hrest
      rw [join_eq (List.append_ne_nil_of_right_ne_nil _ (List.cons_ne_nil _ _)) hr hb, hread]
      change ∃ url, (if r.scheme = b.scheme ∧ r.scheme ∈ relativeSchemes then
        Except.ok (resolveParts b r).write else .ok (path.dropWhile isSlash)) = .ok url
      split
      · exact ⟨_, rfl⟩
      · exact ⟨_, rfl⟩

end Endpoint

end StorageGateway
