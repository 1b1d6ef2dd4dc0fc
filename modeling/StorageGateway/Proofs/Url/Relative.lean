import StorageGateway.Proofs.Url.Gateway
import StorageGateway.Proofs.Url.Normalizing
import StorageGateway.Proofs.Url.Segments

/-! Paths of plain segments, resolved at an endpoint of plain segments. However the endpoint is
spelled and however many slashes stand in front of the path, the URL is the endpoint, one slash and
the path: nothing in them is skipped, taken for a scheme or walked over. -/
namespace StorageGateway

namespace Url

/-! Texts that have no more parts than a scheme, an authority and a path. -/

/-- The marks of paths and of the authorities and schemes in front of them. -/
def isSimpleMark (c : CodePoint) : Bool :=
  isSegmentMark c || c == CodePoint.colon || c == CodePoint.slash

def IsSimple (t : Text) : Prop := ∀ c ∈ t, isSimpleMark c = true

instance decidableIsSimple (t : Text) : Decidable (IsSimple t) :=
  List.decidableBAll (fun c => isSimpleMark c = true) t

theorem isSimpleMark_iff (c : CodePoint) : isSimpleMark c = true ↔
    (0x41 ≤ c.val ∧ c.val ≤ 0x5A) ∨ (0x61 ≤ c.val ∧ c.val ≤ 0x7A) ∨
      (0x2D ≤ c.val ∧ c.val ≤ 0x3A) ∨ c.val = 0x5F ∨ c.val = 0x7E := by
  simp only [isSimpleMark, isSegmentMark, CodePoint.isAsciiLetter, CodePoint.isAsciiDigit,
    Bool.or_eq_true, Bool.and_eq_true, decide_eq_true_eq, beq_iff_eq, Fin.ext_iff,
    CodePoint.hyphen, CodePoint.underscore, CodePoint.dot, CodePoint.colon, CodePoint.slash]
  omega

namespace IsSimple

variable {t : Text}

theorem append {a b : Text} (ha : IsSimple a) (hb : IsSimple b) : IsSimple (a ++ b) :=
  List.forall_mem_append.mpr ⟨ha, hb⟩

theorem cons {c : CodePoint} (hc : isSimpleMark c = true) (h : IsSimple t) : IsSimple (c :: t) :=
  List.forall_mem_cons.mpr ⟨hc, h⟩

theorem not_mem (h : IsSimple t) {c : CodePoint} (hc : isSimpleMark c = false) : c ∉ t :=
  fun hm => by
    rw [h c hm] at hc
    cases hc

/-- Nothing in such a text is skipped. -/
theorem clean (h : IsSimple t) : clean t = t := by
  have hread : ∀ c ∈ t, isLeadingJunk c = false ∧ isLineMark c = false := by
    intro c hc
    have hv := (isSimpleMark_iff c).mp (h c hc)
    simp only [isLeadingJunk, isLineMark, decide_eq_false_iff_not, Bool.or_eq_false_iff,
      beq_eq_false_iff_ne]
    omega
  have hdrop : t.dropWhile isLeadingJunk = t := by
    cases t with
    | nil => rfl
    | cons c t => exact List.dropWhile_cons_of_neg (by simp [(hread c List.mem_cons_self).1])
  rw [Url.clean, hdrop]
  exact List.filter_eq_self.mpr fun c hc => by simp [(hread c hc).2]

theorem unblank (h : IsSimple t) : ∀ c ∈ t, c.isBlank = false := by
  intro c hc
  have hv := (isSimpleMark_iff c).mp (h c hc)
  rw [Bool.eq_false_iff]
  simp only [CodePoint.isBlank, ne_eq, Bool.or_eq_true, Bool.and_eq_true, decide_eq_true_eq,
    beq_iff_eq]
  omega

theorem isPlain (h : IsSimple t) : IsPlain t := by
  intro c hc
  have hv := (isSimpleMark_iff c).mp (h c hc)
  simp only [isPlainMark, CodePoint.isAscii, Bool.and_eq_true, decide_eq_true_eq, bne_iff_ne,
    ne_eq, Fin.ext_iff, CodePoint.openBracket, CodePoint.closeBracket]
  omega

end IsSimple

theorem cut_of_not_mem {mark : CodePoint} {t : Text} (h : mark ∉ t) : cut mark t = (t, []) := by
  rw [cut, Text.splitFirst?_eq_none h]
  rfl

theorem splitParams_of_not_mem {path : Text} (h : CodePoint.semicolon ∉ path) :
    splitParams path = (path, []) := by
  unfold splitParams
  cases hs : Text.splitLast? CodePoint.slash path with
  | none => exact cut_of_not_mem h
  | some found =>
    obtain ⟨front, last⟩ := found
    have hpath : path = front ++ CodePoint.slash :: last := by
      obtain ⟨⟨b, a⟩, hr, he⟩ := Option.map_eq_some_iff.mp hs
      obtain ⟨rfl, rfl⟩ := Prod.mk.inj he
      have hrev := congrArg List.reverse (Text.eq_of_splitFirst? hr)
      simpa using hrev
    have hlast : CodePoint.semicolon ∉ last := fun hm => h (by
      rw [hpath]
      exact List.mem_append_right _ (List.mem_cons_of_mem _ hm))
    dsimp only
    rw [cut_of_not_mem hlast, hpath]
    simp

/-- A simple text has no parts but the scheme, the authority and the path. -/
theorem split_of_simple {scheme t name rest : Text} (h : IsSimple t) (hr : IsSimple rest)
    (hs : (splitScheme? t).getD (scheme, t) = (name, rest)) :
    split scheme t = .ok ⟨name, (splitAuthority rest).1, (splitAuthority rest).2, [], [], []⟩ := by
  have hsub : ∀ c ∈ (splitAuthority rest).2, c ∈ rest := by
    unfold splitAuthority
    split
    · split
      · exact fun c hc => List.mem_cons_of_mem _ (List.mem_cons_of_mem _
          ((List.dropWhile_sublist _).subset hc))
      · exact fun c hc => hc
    · exact fun c hc => hc
  have hpath : IsSimple (splitAuthority rest).2 := fun c hc => hr c (hsub c hc)
  have hauthority : IsPlain (splitAuthority rest).1 := fun c hc =>
    hr.isPlain c (mem_of_mem_splitAuthority hc).1
  obtain ⟨hbrackets, hfolding⟩ := checks_of_plain hauthority
  have hnumber : cut CodePoint.numberSign (splitAuthority rest).2 = ((splitAuthority rest).2, []) :=
    cut_of_not_mem (hpath.not_mem rfl)
  have hquestion :
      cut CodePoint.questionMark (splitAuthority rest).2 = ((splitAuthority rest).2, []) :=
    cut_of_not_mem (hpath.not_mem rfl)
  have hparams : splitParams (splitAuthority rest).2 = ((splitAuthority rest).2, []) :=
    splitParams_of_not_mem (hpath.not_mem rfl)
  unfold split
  simp only [h.clean, hs, hbrackets, hfolding, hnumber, hquestion, hparams, ite_self]
  rfl

theorem splitAuthority_written {authority tail : Text}
    (ha : ∀ c ∈ authority, endsAuthority c = false) (ht : Closes tail) :
    splitAuthority (CodePoint.slash :: CodePoint.slash :: (authority ++ tail)) =
      (authority, tail) := by
  refine Prod.ext (splitAuthority_slashes ha ht) ?_
  have hpass : ∀ c ∈ authority, (!endsAuthority c) = true := fun c hc => by rw [ha c hc]; rfl
  unfold splitAuthority
  dsimp only
  rw [if_pos ⟨rfl, rfl⟩]
  change (authority ++ tail).dropWhile (!endsAuthority ·) = tail
  rw [List.dropWhile_append_of_pos hpass]
  cases tail with
  | nil => rfl
  | cons c tail => exact List.dropWhile_cons_of_neg (by simp [ht c rfl])

/-- No scheme is found where a slash stands before the first colon. -/
theorem splitScheme?_eq_none {t tail : Text} (ht : Trails tail) (hc : CodePoint.colon ∉ t) :
    splitScheme? (t ++ tail) = none := by
  cases h : splitScheme? (t ++ tail) with
  | none => rfl
  | some found =>
    obtain ⟨rest, hs, -⟩ := ht.splitScheme? h
    obtain ⟨c, name, hf, -, -⟩ := splitScheme?_eq_some.mp hs
    rw [Text.splitFirst?_eq_none hc] at hf
    cases hf

/-- Writing an origin and a path that starts at its root. -/
theorem write_of_rooted {o : Origin} (hs : o.scheme ≠ []) (ha : o.authority ≠ []) {path : Text}
    (hp : path.head? = some CodePoint.slash) :
    Parts.write ⟨o.scheme, o.authority, path, [], [], []⟩ = o.text ++ path := by
  have hw : writeAuthority o.scheme o.authority path =
      [CodePoint.slash, CodePoint.slash] ++ o.authority ++ path := by
    rw [writeAuthority, if_pos (.inl ha)]
    dsimp only
    rw [if_neg fun h => h.2 hp]
  simp only [Parts.write, marked, if_true, if_neg hs, List.append_nil, hw, Origin.text]
  simp

/-! Addresses and paths of plain segments. -/

def isHostMark (c : CodePoint) : Bool :=
  c.isAsciiLetter || c.isAsciiDigit || c == CodePoint.dot || c == CodePoint.hyphen ||
    c == CodePoint.colon

/-- The address of a gateway on the web, with plain segments behind its authority or none. -/
structure Address where
  origin : Origin
  segments : List Text
  web : IsWebScheme origin.scheme
  authority_ne_nil : origin.authority ≠ []
  host : ∀ c ∈ origin.authority, isHostMark c = true
  plain : ∀ s ∈ segments, IsSegment isSegmentMark s

/-- A path of plain segments; no colon stands in the first. -/
structure RelativePath where
  first : Text
  rest : List Text
  plain_first : IsSegment isSegmentMark first
  plain_rest : ∀ s ∈ rest, IsSegment isPathMark s

def Address.text (a : Address) : Text := a.origin.text ++ Text.led CodePoint.slash a.segments

def RelativePath.text (p : RelativePath) : Text :=
  Text.joinWith [CodePoint.slash] (p.first :: p.rest)

/-- The endpoints that mean an address: with white space around it, with slashes at its end, and
with one segment more or none. -/
inductive Address.Spelled (a : Address) : Text → Prop where
  | intro {before segment after : Text} (hb : ∀ c ∈ before, c.isBlank = true)
      (hs : segment = [] ∨ segment = "/api") (ha : ∀ c ∈ after, c.isBlank = true) (n : Nat) :
      Spelled a (before ++ (a.text ++ segment ++ List.replicate n CodePoint.slash) ++ after)

/-- Marks of a class within another one. -/
theorem IsSegment.mono {p q : CodePoint → Bool} {segment : Text} (h : IsSegment p segment)
    (hpq : ∀ c, p c = true → q c = true) : IsSegment q segment :=
  ⟨h.ne_nil, fun c hc => hpq c (h.marks c hc), h.ne_here, h.ne_above⟩

theorem IsSegment.path {segment : Text} (h : IsSegment isSegmentMark segment) :
    IsSegment isPathMark segment := h.mono fun c hc => by simp [isPathMark, hc]

theorem IsSegment.simple {segment : Text} (h : IsSegment isPathMark segment) : IsSimple segment :=
  fun c hc => by
    have hm := h.marks c hc
    rw [isPathMark] at hm
    rw [isSimpleMark, hm, Bool.true_or]

theorem IsSimple.led {segments : List Text} (h : ∀ s ∈ segments, IsSegment isPathMark s) :
    IsSimple (Text.led CodePoint.slash segments) := by
  intro c hc
  obtain ⟨s, hs, hm⟩ := List.mem_flatMap.mp hc
  exact IsSimple.cons rfl (h s hs).simple c hm

namespace Address

variable (a : Address)

theorem path : ∀ s ∈ a.segments, IsSegment isPathMark s := fun s hs => (a.plain s hs).path

theorem host_simple : IsSimple a.origin.authority := by
  intro c hc
  have hm := a.host c hc
  simp only [isHostMark, Bool.or_eq_true] at hm
  simp only [isSimpleMark, isSegmentMark, Bool.or_eq_true]
  tauto

theorem isWeb : a.origin.IsWeb where
  scheme := a.web
  ne_nil := a.authority_ne_nil
  marks := fun c hc => by
    refine ⟨?_, a.host_simple.unblank c hc⟩
    rintro rfl
    exact absurd (a.host _ hc) (by decide)

/-- The path ends in a segment, if in anything. -/
theorem led_endsUnslashed :
    Text.EndsOutside Endpoint.isSlash (Text.led CodePoint.slash a.segments) := by
  rcases List.eq_nil_or_concat a.segments with hnil | ⟨front, last, hl⟩
  · rw [hnil]
    exact fun c hc => by cases hc
  · have hlast := a.path last (by rw [hl]; simp)
    have hends : Text.EndsOutside Endpoint.isSlash last := .of_forall fun c hc => by
      have hne : c ≠ CodePoint.slash := fun h => hlast.slash_not_mem (h ▸ hc)
      simpa [Endpoint.isSlash] using hne
    have happend :=
      hends.append hlast.ne_nil (Text.led CodePoint.slash front ++ [CodePoint.slash])
    rw [hl]
    simpa using happend

/-- However an address is spelled, its normal form is the address. -/
theorem normalize_of_spelled (h : ¬ Endpoint.apiSegment <:+ a.text) {endpoint : Text}
    (hs : a.Spelled endpoint) : Endpoint.normalize endpoint = a.text := by
  obtain @⟨before, segment, after, hb, hs, ha, n⟩ := hs
  have hslashes : ∀ c ∈ List.replicate n CodePoint.slash, c = CodePoint.slash :=
    fun c hc => List.eq_of_mem_replicate hc
  have hsegment : IsSimple segment ∧
      Text.EndsOutside Endpoint.isSlash (Text.led CodePoint.slash a.segments ++ segment) := by
    rcases hs with rfl | rfl
    · rw [List.append_nil]
      exact ⟨List.forall_mem_nil _, a.led_endsUnslashed⟩
    · have hends : Text.EndsOutside Endpoint.isSlash (Text.ofString "/api") := fun c hc => by
        cases hc
        rfl
      exact ⟨by decide, hends.append (by decide) _⟩
  have hsimple : IsSimple (Text.led CodePoint.slash a.segments ++ segment ++
      List.replicate n CodePoint.slash) :=
    ((IsSimple.led a.path).append hsegment.1).append fun c hc => by rw [hslashes c hc]; rfl
  have hstrips : Endpoint.Strips (Text.led CodePoint.slash a.segments ++ segment ++
      (List.replicate n CodePoint.slash ++ after)) (Text.led CodePoint.slash a.segments ++ segment) :=
    ⟨_, after, rfl, fun c hc => by rw [hslashes c hc]; rfl, ha, .of_forall hsimple.unblank,
      hsegment.2⟩
  have hnormal := Endpoint.normalize_of_strips a.isWeb hb hstrips
  have hendpoint : before ++ (a.text ++ segment ++ List.replicate n CodePoint.slash) ++ after =
      before ++ (a.origin.text ++ (Text.led CodePoint.slash a.segments ++ segment ++
        (List.replicate n CodePoint.slash ++ after))) := by simp [Address.text]
  rw [hendpoint, hnormal, ← List.append_assoc]
  rcases hs with rfl | rfl
  · rw [List.append_nil]
    exact Text.withoutTrailing_of_not_suffix h
  · exact Text.withoutTrailing_append_self _ _

end Address

namespace RelativePath

variable (p : RelativePath)

theorem text_eq : p.text = p.first ++ Text.led CodePoint.slash p.rest :=
  Text.joinWith_cons _ _ _

theorem simple : IsSimple p.text := by
  rw [p.text_eq]
  exact p.plain_first.path.simple.append (.led p.plain_rest)

theorem trails_led (segments : List Text) : Trails (Text.led CodePoint.slash segments) := by
  cases segments with
  | nil => exact fun c hc => by cases hc
  | cons s segments => exact fun c hc => by cases hc; rfl

/-- No scheme is found in such a path, with slashes in front of it or without. -/
theorem splitScheme?_slashes (k : Nat) :
    splitScheme? (List.replicate k CodePoint.slash ++ p.text) = none := by
  have hfirst : CodePoint.colon ∉ p.first := fun hm =>
    absurd (p.plain_first.marks _ hm) (by decide)
  rw [p.text_eq]
  cases k with
  | zero =>
    rw [List.replicate_zero, List.nil_append]
    exact splitScheme?_eq_none (trails_led p.rest) hfirst
  | succ k =>
    have htail : Trails (List.replicate (k + 1) CodePoint.slash ++
        (p.first ++ Text.led CodePoint.slash p.rest)) := fun c hc => by cases hc; rfl
    have hnone : CodePoint.colon ∉ ([] : Text) := List.not_mem_nil
    have hsplit := splitScheme?_eq_none htail hnone
    exact hsplit

theorem head_ne_slash {c : CodePoint} (h : p.text.head? = some c) : c ≠ CodePoint.slash := by
  rw [p.text_eq, List.head?_append_of_ne_nil _ p.plain_first.ne_nil] at h
  rintro rfl
  exact p.plain_first.path.slash_not_mem (List.mem_of_mem_head? h)

theorem ne_nil : p.text ≠ [] := by
  rw [p.text_eq]
  exact List.append_ne_nil_of_left_ne_nil p.plain_first.ne_nil _

/-- Without slashes in front there is nothing but a path. -/
theorem split_text (scheme : Text) : split scheme p.text = .ok ⟨scheme, [], p.text, [], [], []⟩ := by
  have hs : (splitScheme? p.text).getD (scheme, p.text) = (scheme, p.text) := by
    have hnone := p.splitScheme?_slashes 0
    rw [List.replicate_zero, List.nil_append] at hnone
    rw [hnone]
    rfl
  have hauthority : splitAuthority p.text = ([], p.text) := by
    unfold splitAuthority
    split
    · rename_i a b r ht
      exact if_neg fun h => p.head_ne_slash (by rw [ht]; rfl) h.1
    · rfl
  rw [split_of_simple p.simple p.simple hs, hauthority]

theorem dropWhile_slashes (k : Nat) :
    (List.replicate k CodePoint.slash ++ p.text).dropWhile Endpoint.isSlash = p.text := by
  rw [List.dropWhile_append_of_pos fun c hc => by rw [List.eq_of_mem_replicate hc]; rfl]
  cases ht : p.text with
  | nil => rfl
  | cons c t =>
    have hne := p.head_ne_slash (by rw [ht]; rfl : p.text.head? = some c)
    exact List.dropWhile_cons_of_neg (by simpa [Endpoint.isSlash] using hne)

end RelativePath

/-- The parts of an address with a slash behind it. -/
theorem Address.split_text (a : Address) : split [] (a.text ++ [CodePoint.slash]) =
    .ok ⟨a.origin.scheme, a.origin.authority, Text.led CodePoint.slash (a.segments ++ [[]]),
      [], [], []⟩ := by
  let path := Text.led CodePoint.slash (a.segments ++ [[]])
  have htext : a.text ++ [CodePoint.slash] = a.origin.scheme ++ CodePoint.colon ::
      CodePoint.slash :: CodePoint.slash :: (a.origin.authority ++ path) := by
    simp [path, Address.text, Origin.text]
  have hpath : IsSimple path := by
    have hsegments := (IsSimple.led a.path).append (IsSimple.cons (c := CodePoint.slash) rfl
      (List.forall_mem_nil _))
    simpa [path] using hsegments
  have hrest : IsSimple (CodePoint.slash :: CodePoint.slash :: (a.origin.authority ++ path)) :=
    .cons rfl (.cons rfl (a.host_simple.append hpath))
  have hscheme : IsSimple a.origin.scheme := by
    rcases a.web with h | h
    · rw [h]; decide
    · rw [h]; decide
  have hcloses : Closes path := (RelativePath.trails_led _).closes
  have hauthority : ∀ c ∈ a.origin.authority, endsAuthority c = false := by
    intro c hc
    simp only [endsAuthority, Bool.or_eq_false_iff, beq_eq_false_iff_ne]
    refine ⟨⟨(a.isWeb.marks c hc).1, ?_⟩, ?_⟩
    · rintro rfl
      exact a.host_simple.not_mem rfl hc
    · rintro rfl
      exact a.host_simple.not_mem rfl hc
  rw [htext, split_of_simple (hscheme.append (.cons rfl hrest)) hrest
    (by rw [a.web.splitScheme?_colon]; rfl), splitAuthority_written hauthority hcloses]

/-- The segments of the path come behind those of the address. -/
theorem Address.resolveParts_text (a : Address) (p : RelativePath) :
    resolveParts
        ⟨a.origin.scheme, a.origin.authority, Text.led CodePoint.slash (a.segments ++ [[]]),
          [], [], []⟩ ⟨a.origin.scheme, [], p.text, [], [], []⟩ =
      ⟨a.origin.scheme, a.origin.authority,
        Text.led CodePoint.slash (a.segments ++ p.first :: p.rest), [], [], []⟩ := by
  have hpath : joinPaths (Text.led CodePoint.slash (a.segments ++ [[]])) p.text =
      Text.led CodePoint.slash (a.segments ++ p.first :: p.rest) := by
    rw [p.text_eq]
    exact joinPaths_of_plain a.path p.plain_first.path p.plain_rest
  unfold resolveParts
  rw [if_neg fun h => h.2 rfl, if_pos a.web.mem_authoritySchemes]
  dsimp only
  rw [if_neg fun h => p.ne_nil h.1, hpath]

end Url

open Url

/-- At an endpoint whose normal form is an address, a path comes behind the address and a slash. -/
theorem Endpoint.resolve_of_normalize {endpoint : Text} {a : Address}
    (hn : normalize endpoint = a.text) (p : RelativePath) (k : Nat) :
    resolve endpoint (List.replicate k CodePoint.slash ++ p.text) =
      .ok (a.text ++ CodePoint.slash :: p.text) := by
  have hslashes : IsSimple (List.replicate k CodePoint.slash ++ p.text) := by
    refine IsSimple.append (fun c hc => ?_) p.simple
    rw [List.eq_of_mem_replicate hc]
    rfl
  have hscheme : (splitScheme? (List.replicate k CodePoint.slash ++ p.text)).getD
      ([], List.replicate k CodePoint.slash ++ p.text) =
        ([], List.replicate k CodePoint.slash ++ p.text) := by
    rw [p.splitScheme?_slashes k]
    rfl
  have hgiven := split_of_simple hslashes hslashes hscheme
  have hbase : a.text ++ [CodePoint.slash] ≠ [] :=
    List.append_ne_nil_of_right_ne_nil _ (List.cons_ne_nil _ _)
  rw [resolve_of_split hgiven (.inl rfl), hn, p.dropWhile_slashes,
    join_eq hbase p.ne_nil a.split_text, p.split_text]
  change (if a.origin.scheme = a.origin.scheme ∧ a.origin.scheme ∈ relativeSchemes then
    Except.ok (resolveParts _ _).write else _) = _
  have hrooted : (Text.led CodePoint.slash (a.segments ++ p.first :: p.rest)).head? =
      some CodePoint.slash := by
    cases a.segments <;> rfl
  rw [if_pos ⟨rfl, a.web.mem_relativeSchemes⟩, a.resolveParts_text p,
    write_of_rooted a.web.ne_nil a.authority_ne_nil hrooted, Address.text, p.text_eq]
  simp

/-- A path of plain segments stands behind the address and one slash, however the address is
spelled and however many slashes stand in front of the path. -/
theorem Session.resolve_of_spelled {s : Session} {a : Address}
    (ha : ¬ Endpoint.apiSegment <:+ a.text) (hs : a.Spelled s.endpoint) (p : RelativePath)
    (k : Nat) :
    s.resolve (List.replicate k CodePoint.slash ++ p.text) =
      .ok (a.text ++ CodePoint.slash :: p.text) := by
  rw [resolve, Endpoint.resolve_of_normalize (a.normalize_of_spelled ha hs) p k]
  rfl

namespace Sample

def basedAddress : Address where
  origin := ⟨"https", "gw:443"⟩
  segments := ["base"]
  web := .inr rfl
  authority_ne_nil := List.cons_ne_nil _ _
  host := List.all_eq_true.mp (by decide +kernel)
  plain := List.forall_mem_singleton.mpr (by decide +kernel)

def volumePath : RelativePath where
  first := "api"
  rest := ["instances", "Volume::1"]
  plain_first := by decide +kernel
  plain_rest := List.forall_mem_cons.mpr
    ⟨by decide +kernel, List.forall_mem_singleton.mpr (by decide +kernel)⟩

/-- A session at that address, spelled with all that may stand around it. -/
def spelledOut : Session := { endpoint := " https://gw:443/base/api//\n" }

end Sample

theorem Session.resolve_of_spelledOut :
    ¬ Endpoint.apiSegment <:+ Sample.basedAddress.text ∧
      Sample.basedAddress.Spelled Sample.spelledOut.endpoint ∧
      Sample.spelledOut.resolve "//api/instances/Volume::1" =
        .ok "https://gw:443/base/api/instances/Volume::1" := by
  have ha : ¬ Endpoint.apiSegment <:+ Sample.basedAddress.text := by decide +kernel
  have hs : Sample.basedAddress.Spelled Sample.spelledOut.endpoint :=
    @Address.Spelled.intro Sample.basedAddress [CodePoint.space] "/api" [CodePoint.newline]
      (List.forall_mem_singleton.mpr (by decide)) (.inr rfl)
      (List.forall_mem_singleton.mpr (by decide)) 2
  exact ⟨ha, hs, resolve_of_spelled ha hs Sample.volumePath 2⟩

end StorageGateway
