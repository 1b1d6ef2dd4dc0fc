import StorageGateway.Proofs.Trimming
import StorageGateway.Proofs.Url.Resolvable

/-! What an endpoint loses when it is put in its normal form. From the end of its path go the white
space, then the slashes, then at most one segment. The scheme and the authority stay, except where
nothing of the path is left and the authority itself reads like that segment. -/
namespace StorageGateway

namespace Url

/-- The front of a URL that names a scheme and an authority. -/
def Origin.text (o : Origin) : Text :=
  o.scheme ++ CodePoint.colon :: CodePoint.slash :: CodePoint.slash :: o.authority

/-- A scheme of the web, and an authority without slashes and white space. -/
structure Origin.IsWeb (o : Origin) : Prop where
  scheme : IsWebScheme o.scheme
  ne_nil : o.authority ≠ []
  marks : ∀ c ∈ o.authority, c ≠ CodePoint.slash ∧ c.isBlank = false

namespace Origin.IsWeb

variable {o : Origin}

theorem text_ne_nil (o : Origin) : o.text ≠ [] :=
  List.append_ne_nil_of_right_ne_nil _ (List.cons_ne_nil _ _)

theorem head_text (ho : o.IsWeb) {c : CodePoint} (h : o.text.head? = some c) :
    c.isBlank = false := by
  unfold Origin.text at h
  rcases ho.scheme with hs | hs
  · rw [hs] at h
    cases h
    rfl
  · rw [hs] at h
    cases h
    rfl

theorem text_endsOutside (ho : o.IsWeb) {p : CodePoint → Bool}
    (h : ∀ c ∈ o.authority, p c = false) : Text.EndsOutside p o.text := by
  have hsplit : o.text = (o.scheme ++ [CodePoint.colon, CodePoint.slash, CodePoint.slash]) ++
      o.authority := by simp [Origin.text]
  rw [hsplit]
  exact (Text.EndsOutside.of_forall h).append ho.ne_nil _

theorem text_endsUnblank (ho : o.IsWeb) : Text.EndsOutside CodePoint.isBlank o.text :=
  ho.text_endsOutside fun c hc => (ho.marks c hc).2

theorem text_endsUnslashed (ho : o.IsWeb) : Text.EndsOutside Endpoint.isSlash o.text :=
  ho.text_endsOutside fun c hc => by simp [Endpoint.isSlash, (ho.marks c hc).1]

end Origin.IsWeb

end Url

namespace Endpoint

open Url

/-- A path without the white space at its end and the slashes before that. -/
def Strips (path rest : Text) : Prop :=
  ∃ slashes blanks, path = rest ++ (slashes ++ blanks) ∧ (∀ c ∈ slashes, isSlash c = true) ∧
    (∀ c ∈ blanks, c.isBlank = true) ∧ Text.EndsOutside CodePoint.isBlank (rest ++ slashes) ∧
    Text.EndsOutside isSlash rest

theorem strips_iff (path rest : Text) :
    Strips path rest ↔ Text.dropEndWhile isSlash path.trimEnd = rest := by
  constructor
  · rintro ⟨slashes, blanks, rfl, hs, hb, hblank, hslash⟩
    have htrim : Text.trimEnd (rest ++ (slashes ++ blanks)) = rest ++ slashes := by
      unfold Text.trimEnd
      rw [← List.append_assoc, Text.dropEndWhile_append_right _ hb,
        Text.dropEndWhile_of_endsOutside hblank]
    rw [htrim, Text.dropEndWhile_append_right _ hs, Text.dropEndWhile_of_endsOutside hslash]
  · rintro rfl
    obtain ⟨blanks, hpath, hb⟩ := Text.dropEndWhile_append CodePoint.isBlank path
    obtain ⟨slashes, htrim, hs⟩ := Text.dropEndWhile_append isSlash path.trimEnd
    refine ⟨slashes, blanks, ?_, hs, hb, ?_, Text.endsOutside_dropEndWhile _ _⟩
    · rw [← List.append_assoc, ← htrim]
      exact hpath
    · rw [← htrim]
      exact Text.endsOutside_dropEndWhile _ _

/-- Only the path of an endpoint is stripped. -/
theorem normalize_of_strips {o : Origin} (ho : o.IsWeb) {before path rest : Text}
    (hb : ∀ c ∈ before, c.isBlank = true) (h : Strips path rest) :
    normalize (before ++ (o.text ++ path)) = Text.withoutTrailing apiSegment (o.text ++ rest) := by
  have hhead : ∀ c, (o.text ++ path).head? = some c → c.isBlank = false := by
    intro c hc
    rw [List.head?_append_of_ne_nil _ (Origin.IsWeb.text_ne_nil o)] at hc
    exact ho.head_text hc
  have htrim : Text.trim (before ++ (o.text ++ path)) = o.text ++ path.trimEnd := by
    have hall := Text.trim_enclosed hb hhead (List.forall_mem_nil _)
    rw [List.append_nil] at hall
    rw [hall]
    exact Text.dropEndWhile_append_left ho.text_endsUnblank path
  unfold normalize
  rw [htrim, Text.dropEndWhile_append_left ho.text_endsUnslashed, (strips_iff path rest).mp h]

/-- A segment at the end of a text is at the end of what starts with its slash. -/
theorem apiSegment_suffix {front rest : Text} (h : apiSegment <:+ front ++ CodePoint.slash :: rest) :
    apiSegment <:+ CodePoint.slash :: rest := by
  rcases List.suffix_or_suffix_of_suffix h (List.suffix_append front _) with hs | ⟨pre, hpre⟩
  · exact hs
  · cases pre with
    | nil => exact ⟨[], hpre.symm⟩
    | cons c pre =>
      -- the slash would be one of the three letters
      have htail : pre ++ CodePoint.slash :: rest = Text.ofString "api" :=
        (List.cons.inj hpre).2
      have hmem : CodePoint.slash ∈ Text.ofString "api" := by
        rw [← htail]
        exact List.mem_append_right _ List.mem_cons_self
      exact absurd hmem (by decide)

theorem apiSegment_suffix_text_iff {o : Origin} (ho : o.IsWeb) :
    apiSegment <:+ o.text ↔ o.authority = Text.ofString "api" := by
  have hsplit : o.text = (o.scheme ++ [CodePoint.colon, CodePoint.slash]) ++
      CodePoint.slash :: o.authority := by simp [Origin.text]
  rw [hsplit]
  constructor
  · intro h
    obtain ⟨pre, hpre⟩ := apiSegment_suffix h
    cases pre with
    | nil => exact (List.cons.inj hpre).2.symm
    | cons c pre =>
      have htail : pre ++ apiSegment = o.authority := (List.cons.inj hpre).2
      have hmem : CodePoint.slash ∈ o.authority := by
        rw [← htail]
        exact List.mem_append_right _ List.mem_cons_self
      exact absurd rfl (ho.marks _ hmem).1
  · intro h
    rw [h]
    exact List.suffix_append _ _

/-- What is kept of a stripped path: all of it, or all but one segment at its end. -/
def Keeps (rest kept : Text) : Prop :=
  rest = kept ++ apiSegment ∨ (rest = kept ∧ ¬ apiSegment <:+ kept)

/-- The path is the only part that is cut, wherever a segment is at the end of it or none is. -/
theorem normalize_of_keeps {o : Origin} (ho : o.IsWeb) {before path rest kept : Text}
    (hb : ∀ c ∈ before, c.isBlank = true) (hp : Trails path) (h : Strips path rest)
    (hk : Keeps rest kept) (hn : ¬(o.authority = "api" ∧ rest = [])) :
    normalize (before ++ (o.text ++ path)) = o.text ++ kept := by
  rw [normalize_of_strips ho hb h]
  rcases hk with rfl | ⟨rfl, hnot⟩
  · rw [← List.append_assoc, Text.withoutTrailing_append_self]
  refine Text.withoutTrailing_of_not_suffix fun hs => ?_
  cases rest with
  | nil =>
    rw [List.append_nil] at hs
    exact hn ⟨(apiSegment_suffix_text_iff ho).mp hs, rfl⟩
  | cons c rest =>
    obtain ⟨slashes, blanks, rfl, -⟩ := h
    obtain rfl : c = CodePoint.slash := hp c rfl
    exact hnot (apiSegment_suffix hs)

/-- An authority that reads like the segment is cut off with one of the slashes in front of it. -/
theorem normalize_of_api {o : Origin} (ho : o.IsWeb) (ha : o.authority = "api")
    {before path : Text} (hb : ∀ c ∈ before, c.isBlank = true) (h : Strips path []) :
    normalize (before ++ (o.text ++ path)) = o.scheme ++ [CodePoint.colon, CodePoint.slash] := by
  have hsplit : o.text = (o.scheme ++ [CodePoint.colon, CodePoint.slash]) ++ apiSegment := by
    rw [Origin.text, ha, List.append_assoc]
    rfl
  rw [normalize_of_strips ho hb h, List.append_nil, hsplit, Text.withoutTrailing_append_self]

theorem exists_keeps (rest : Text) : ∃ kept, Keeps rest kept := by
  by_cases h : apiSegment <:+ rest
  · obtain ⟨kept, hk⟩ := h
    exact ⟨kept, .inl hk.symm⟩
  · exact ⟨rest, .inr ⟨rfl, h⟩⟩

/-- The normal form of an endpoint begins with its scheme and its authority if and only if the
authority is not the name of the segment with nothing but slashes behind it. Then the path is
stripped and loses at most one segment; otherwise one slash is left behind the scheme. -/
theorem normalize_keeps_origin_iff {o : Origin} (ho : o.IsWeb) {before path : Text}
    (hb : ∀ c ∈ before, c.isBlank = true) (hp : Trails path) :
    (o.text <+: normalize (before ++ (o.text ++ path)) ↔
      ¬(o.authority = "api" ∧ Strips path [])) ∧
    (¬(o.authority = "api" ∧ Strips path []) → ∃ rest kept, Strips path rest ∧ Keeps rest kept ∧
      normalize (before ++ (o.text ++ path)) = o.text ++ kept) ∧
    (o.authority = "api" ∧ Strips path [] →
      normalize (before ++ (o.text ++ path)) = o.scheme ++ [CodePoint.colon, CodePoint.slash]) := by
  have hkept : ¬(o.authority = "api" ∧ Strips path []) → ∃ rest kept, Strips path rest ∧
      Keeps rest kept ∧ normalize (before ++ (o.text ++ path)) = o.text ++ kept := by
    intro hn
    have hs := (strips_iff path _).mpr rfl
    obtain ⟨kept, hk⟩ := exists_keeps (Text.dropEndWhile isSlash path.trimEnd)
    refine ⟨_, kept, hs, hk, normalize_of_keeps ho hb hp hs hk fun ⟨ha, hnil⟩ => hn ⟨ha, ?_⟩⟩
    rw [hnil] at hs
    exact hs
  refine ⟨⟨fun hpre hx => ?_, fun hn => ?_⟩, hkept, fun hx => normalize_of_api ho hx.1 hb hx.2⟩
  · rw [normalize_of_api ho hx.1 hb hx.2] at hpre
    have hlength := hpre.length_le
    rw [Origin.text, hx.1] at hlength
    simp [Text.ofString] at hlength
  · obtain ⟨rest, kept, -, -, he⟩ := hkept hn
    rw [he]
    exact List.prefix_append _ _

/-- A gateway whose name is that of the segment. -/
def apiHost : Origin := ⟨"https", "api"⟩

theorem apiHost_isWeb : apiHost.IsWeb where
  scheme := .inr rfl
  ne_nil := List.cons_ne_nil _ _
  marks := fun c hc => by
    have hall : apiHost.authority.all (fun c => c != CodePoint.slash && !c.isBlank) = true := by
      decide +kernel
    simpa using List.all_eq_true.mp hall c hc

/-- With a segment behind it the name stays. -/
theorem normalize_keeps_origin_iff_of_segment :
    apiHost.IsWeb ∧ (∀ c ∈ [CodePoint.space], c.isBlank = true) ∧ Trails "/api/" ∧
      apiHost.text <+: normalize ([CodePoint.space] ++ (apiHost.text ++ "/api/")) := by
  have hb : ∀ c ∈ [CodePoint.space], c.isBlank = true :=
    List.forall_mem_singleton.mpr (by decide)
  have hp : Trails (Text.ofString "/api/") := fun c hc => by cases hc; rfl
  have hn : ¬(apiHost.authority = "api" ∧ Strips (Text.ofString "/api/") []) := by
    rw [strips_iff]
    decide +kernel
  exact ⟨apiHost_isWeb, hb, hp, (normalize_keeps_origin_iff apiHost_isWeb hb hp).1.mpr hn⟩

/-- Without one the name is lost, and what is asked for at such an endpoint has no host. -/
theorem api_host_is_lost :
    (¬∀ (o : Origin) (path : Text), o.IsWeb → Trails path →
      o.text <+: normalize (o.text ++ path)) ∧
    normalize "https://api" = "https:/" ∧
    resolve "https://api" "/api/login" = .ok "https:///api/login" := by
  refine ⟨fun h => ?_, by decide +kernel, by decide +kernel⟩
  have hpre := (h apiHost [] apiHost_isWeb fun c hc => by cases hc).length_le
  revert hpre
  decide +kernel

end Endpoint

end StorageGateway
