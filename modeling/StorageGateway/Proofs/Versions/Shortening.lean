import Mathlib.Data.List.TakeWhile
import StorageGateway.Proofs.Headers.Presenting
import StorageGateway.Proofs.Versions.Unreadable

/-! What a text tells about a version, and that its short form tells the same. The short form is the
text itself or its two numbers with the point between them; either way the runs of digits that are
read stay as they are, so the capabilities do, and the style in which a token is shown. -/
namespace StorageGateway.Version

/-- At least one digit and nothing else. -/
def IsNumber (digits : Text) : Prop := digits ≠ [] ∧ ∀ c ∈ digits, c.isDigit = true

/-- A run of digits before this text does not go on in it. -/
def EndsNumber (t : Text) : Prop := ∀ c, t.head? = some c → c.isDigit = false

/-- The digits that a text starts with: those of the first number, and those of the second behind a
point, if it has any. -/
inductive StartsWith (major : Text) : Text → Text → Prop where
  | alone {rest : Text} (hm : IsNumber major) (hr : EndsNumber rest)
      (hp : ∀ more, rest = CodePoint.dot :: more → EndsNumber more) :
      StartsWith major [] (major ++ rest)
  | both {minor rest : Text} (hm : IsNumber major) (hn : IsNumber minor) (hr : EndsNumber rest) :
      StartsWith major minor (major ++ CodePoint.dot :: (minor ++ rest))

/-- The digits that a text tells a version by; white space may stand in front of them. -/
def Tells (major minor t : Text) : Prop :=
  ∃ blanks told, (∀ c ∈ blanks, c.isBlank = true) ∧ StartsWith major minor told ∧
    t = blanks ++ told

section Runs

variable {digits rest : Text}

theorem endsNumber_nil : EndsNumber [] := by
  intro c hc
  cases hc

theorem endsNumber_dot (t : Text) : EndsNumber (CodePoint.dot :: t) := by
  intro c hc
  obtain rfl : CodePoint.dot = c := Option.some.inj hc
  decide

theorem takeDigits_append (hd : ∀ c ∈ digits, c.isDigit = true) (hr : EndsNumber rest) :
    takeDigits (digits ++ rest) = (digits, rest) := by
  unfold takeDigits
  rw [List.takeWhile_append_of_pos hd, List.dropWhile_append_of_pos hd]
  cases rest with
  | nil => simp
  | cons c rest => simp [hr c rfl]

/-- A text is the digits in front of it and a rest that does not go on with them. -/
theorem takeDigits_spec (t : Text) :
    t = (takeDigits t).1 ++ (takeDigits t).2 ∧ (∀ c ∈ (takeDigits t).1, c.isDigit = true) ∧
      EndsNumber (takeDigits t).2 := by
  refine ⟨List.takeWhile_append_dropWhile.symm, fun c hc => List.mem_takeWhile_imp hc, ?_⟩
  intro c hc
  have hhead := List.head?_dropWhile_not CodePoint.isDigit t
  rw [show (t.dropWhile CodePoint.isDigit).head? = some c from hc] at hhead
  simpa using hhead

end Runs

section Told

variable {major minor t : Text}

theorem StartsWith.isNumber (h : StartsWith major minor t) : IsNumber major := by
  cases h with
  | alone hm => exact hm
  | both hm => exact hm

theorem StartsWith.takeDigits_eq (h : StartsWith major minor t) :
    (takeDigits t).1 = major ∧ minorDigits (takeDigits t).2 = minor := by
  cases h with
  | @alone rest hm hr hp =>
    rw [takeDigits_append hm.2 hr]
    refine ⟨rfl, ?_⟩
    cases rest with
    | nil => rfl
    | cons c rest =>
      by_cases hc : c = CodePoint.dot
      · subst hc
        have hnone : takeDigits ([] ++ rest) = ([], rest) :=
          takeDigits_append (by simp) (hp rest rfl)
        rw [List.nil_append] at hnone
        simp [minorDigits, hnone]
      · simp [minorDigits, hc]
  | both hm hn hr =>
    rw [takeDigits_append hm.2 (endsNumber_dot _)]
    simp [minorDigits, takeDigits_append hn.2 hr]

/-- Digits in front tell a version, and then either a point and digits or something else. -/
theorem startsWith_of_digits (h : (takeDigits t).1 ≠ []) :
    StartsWith (takeDigits t).1 (minorDigits (takeDigits t).2) t := by
  obtain ⟨ht, hdigits, hends⟩ := takeDigits_spec t
  generalize (takeDigits t).1 = digits at *
  generalize (takeDigits t).2 = rest at *
  subst ht
  have halone (hp : ∀ more, rest = CodePoint.dot :: more → EndsNumber more) :
      StartsWith digits [] (digits ++ rest) := .alone ⟨h, hdigits⟩ hends hp
  cases rest with
  | nil => exact halone (by simp)
  | cons c more =>
    by_cases hc : c = CodePoint.dot
    · subst hc
      obtain ⟨hm, hminor, hrest⟩ := takeDigits_spec more
      simp only [minorDigits, if_true]
      by_cases hne : (takeDigits more).1 = []
      · rw [hne]
        refine halone fun more' he => ?_
        obtain rfl : more = more' := List.tail_eq_of_cons_eq he
        rw [hne, List.nil_append] at hm
        rwa [hm]
      · have hboth := StartsWith.both ⟨h, hdigits⟩ ⟨hne, hminor⟩ hrest
        rwa [← hm] at hboth
    · simp only [minorDigits, hc, if_false]
      exact halone fun more' he => absurd (List.head_eq_of_cons_eq he) hc

/-- White space in front is passed over, and no digit is white space. -/
theorem Tells.startsWith (h : Tells major minor t) : StartsWith major minor t.trimStart := by
  obtain ⟨blanks, told, hb, hs, rfl⟩ := h
  have hstart : told.trimStart = told := by
    obtain ⟨hne, hdigits⟩ := hs.isNumber
    obtain ⟨c, digits, rfl⟩ := List.exists_cons_of_ne_nil hne
    have hc := CodePoint.isBlank_of_isDigit (hdigits c List.mem_cons_self)
    cases hs with
    | alone => exact Text.trimStart_eq_self hc
    | both => exact Text.trimStart_eq_self hc
  rwa [Text.trimStart, List.dropWhile_append_of_pos hb, ← Text.trimStart, hstart]

theorem StartsWith.tells (h : StartsWith major minor t.trimStart) : Tells major minor t :=
  ⟨t.takeWhile CodePoint.isBlank, t.trimStart, fun _ hc => List.mem_takeWhile_imp hc, h,
    List.takeWhile_append_dropWhile.symm⟩

theorem parse_of_tells (h : Tells major minor t) :
    parse (some t) = do
      let m ← readNumber major
      let n ← readNumber minor
      return some ⟨m, n⟩ := by
  have hs := h.startsWith
  obtain ⟨hmajor, hminor⟩ := hs.takeDigits_eq
  cases t with
  | nil =>
    rw [show Text.trimStart [] = [] from rfl] at hmajor
    exact absurd hmajor.symm hs.isNumber.1
  | cons c t =>
    unfold parse
    dsimp only
    rw [hmajor, hminor, if_neg hs.isNumber.1]

/-- A text that is read as two numbers tells them by its digits. -/
theorem tells_of_parse {v : Version} (h : parse (some t) = .ok (some v)) :
    ∃ major minor, Tells major minor t := by
  refine ⟨_, _, (startsWith_of_digits (t := t.trimStart) fun hd => ?_).tells⟩
  cases t with
  | nil => cases h
  | cons c t =>
    unfold parse at h
    dsimp only at h
    rw [hd, if_pos rfl] at h
    cases h

end Told

/-! The short form. -/

theorem extract_of_both {major minor rest : Text} (hm : IsNumber major) (hn : IsNumber minor)
    (hr : EndsNumber rest) :
    extract (major ++ CodePoint.dot :: (minor ++ rest)) = major ++ CodePoint.dot :: minor := by
  obtain ⟨hmajor, hminor⟩ := (StartsWith.both hm hn hr).takeDigits_eq
  unfold extract
  dsimp only
  rw [hmajor, hminor, if_pos ⟨hm.1, hn.1⟩, List.append_assoc]
  rfl

/-- A text is kept as it is, or two numbers with a point between them are kept of it. -/
theorem extract_cases (raw : Text) :
    extract raw = raw ∨ ∃ major minor rest, IsNumber major ∧ IsNumber minor ∧ EndsNumber rest ∧
      raw = major ++ CodePoint.dot :: (minor ++ rest) := by
  by_cases hd : (takeDigits raw).1 = []
  · exact .inl (if_neg fun h => h.1 hd)
  · have hs := startsWith_of_digits hd
    generalize (takeDigits raw).1 = major at *
    generalize hminor : minorDigits (takeDigits raw).2 = minor at *
    cases hs with
    | alone => exact .inl (if_neg fun h => h.2 hminor)
    | @both _ rest hm hn hr => exact .inr ⟨major, minor, rest, hm, hn, hr, rfl⟩

theorem extract_prefix (raw : Text) : extract raw <+: raw := by
  obtain h | ⟨major, minor, rest, hm, hn, hr, rfl⟩ := extract_cases raw
  · exact ⟨[], by rw [h, List.append_nil]⟩
  · rw [extract_of_both hm hn hr]
    exact ⟨rest, by simp⟩

theorem extract_extract (raw : Text) : extract (extract raw) = extract raw := by
  obtain h | ⟨major, minor, rest, hm, hn, hr, rfl⟩ := extract_cases raw
  · rw [h, h]
  · rw [extract_of_both hm hn hr]
    simpa using extract_of_both hm hn endsNumber_nil

/-- The short form is read as the text is, also where neither makes sense. -/
theorem parse_extract (raw : Text) : parse (some (extract raw)) = parse (some raw) := by
  obtain h | ⟨major, minor, rest, hm, hn, hr, rfl⟩ := extract_cases raw
  · rw [h]
  · have hlong : Tells major minor (major ++ CodePoint.dot :: (minor ++ rest)) :=
      ⟨[], _, by simp, .both hm hn hr, rfl⟩
    have hshort : Tells major minor (major ++ CodePoint.dot :: minor) :=
      ⟨[], _, by simp, by simpa using StartsWith.both hm hn endsNumber_nil, rfl⟩
    rw [extract_of_both hm hn hr, parse_of_tells hlong, parse_of_tells hshort]

theorem resolve_congr {s t : Option Text} (h : parse s = parse t) :
    Capabilities.resolve s = Capabilities.resolve t := by
  unfold Capabilities.resolve
  rw [h]

/-- What is kept of a version that was told is read like all of it. -/
theorem parse_kept (s : Session) (raw : Text) :
    parse (s.withVersion (some (extract raw))).version = parse (some raw) := by
  by_cases h : raw = []
  · subst h
    rfl
  · rw [s.withVersion_extract h, parse_extract]

theorem readNumber_eq_ok_iff {digits : Text} {n : Nat} :
    readNumber digits = .ok n ↔ digits.length ≤ 4300 ∧ n = digits.digitsValue := by
  unfold readNumber
  split
  · rename_i h
    have hlong : ¬ digits.length ≤ 4300 := by simpa [Json.mostDigits] using h
    simp [hlong]
  · rename_i h
    have hshort : digits.length ≤ 4300 := by simpa [Json.mostDigits] using h
    simp [hshort, eq_comm]

/-- A text is read as two numbers exactly when it tells them by digits that are not too many. -/
theorem parse_eq_some_iff (raw : Text) (v : Version) :
    parse (some raw) = .ok (some v) ↔ ∃ major minor, Tells major minor raw ∧
      major.length ≤ 4300 ∧ minor.length ≤ 4300 ∧
      v = ⟨major.digitsValue, minor.digitsValue⟩ := by
  constructor
  · intro h
    obtain ⟨major, minor, ht⟩ := tells_of_parse h
    rw [parse_of_tells ht] at h
    obtain ⟨m, hm, h⟩ := ok_of_bind h
    obtain ⟨n, hn, h⟩ := ok_of_bind h
    obtain ⟨hmajor, rfl⟩ := readNumber_eq_ok_iff.mp hm
    obtain ⟨hminor, rfl⟩ := readNumber_eq_ok_iff.mp hn
    cases h
    exact ⟨major, minor, ht, hmajor, hminor, rfl⟩
  · rintro ⟨major, minor, ht, hmajor, hminor, rfl⟩
    rw [parse_of_tells ht, readNumber_eq_ok_iff.mpr ⟨hmajor, rfl⟩,
      readNumber_eq_ok_iff.mpr ⟨hminor, rfl⟩]
    rfl

theorem parse_eq_none_iff (raw : Text) : parse (some raw) = .ok none ↔ raw = [] := by
  constructor
  · intro h
    cases raw with
    | nil => rfl
    | cons c t =>
      unfold parse at h
      dsimp only at h
      split at h
      · cases h
      · obtain ⟨m, -, h⟩ := ok_of_bind h
        obtain ⟨n, -, h⟩ := ok_of_bind h
        cases h
  · rintro rfl
    rfl

/-- A text that can be read has capabilities, and they let a token be shown as it is exactly when a
first number is told that is four or more. -/
theorem exists_resolve {raw : Text} {v : Option Version} (h : parse (some raw) = .ok v) :
    ∃ profile, Capabilities.resolve (some raw) = .ok profile ∧
      (profile.bearerToken = true ↔
        ∃ major minor, Tells major minor raw ∧ 4 ≤ major.digitsValue) := by
  refine ⟨_, Capabilities.resolve_of_parse h, ?_⟩
  cases v with
  | none =>
    rw [(parse_eq_none_iff raw).mp h]
    refine ⟨fun hb => (by cases hb), ?_⟩
    rintro ⟨major, minor, ht, -⟩
    exact absurd ht.startsWith.takeDigits_eq.1.symm ht.startsWith.isNumber.1
  | some v =>
    obtain ⟨major, minor, ht, -, -, rfl⟩ := (parse_eq_some_iff raw v).mp h
    rw [show Capabilities.ofVersion? (some _) = Capabilities.ofVersion _ from rfl,
      Capabilities.bearerToken_ofVersion, decide_eq_true_iff]
    refine ⟨fun hl => ⟨major, minor, ht, hl⟩, ?_⟩
    rintro ⟨major', minor', ht', hl⟩
    have hsame : major = major' :=
      ht.startsWith.takeDigits_eq.1.symm.trans ht'.startsWith.takeDigits_eq.1
    rwa [hsame]

/-- Shortening a version that was told changes nothing of what it means. The short form stands at
the start of the text, has no shorter one, and is read alike, with the same capabilities or the same
fault. A text is read as two numbers exactly when it tells them, after white space, by digits that
are not too many; and a token is shown as it is exactly when the first of them is four or more. So a
gateway that tells its version is shown every token in the style that the whole text asks for. -/
theorem extract_keeps_meaning (raw : Text) :
    extract (extract raw) = extract raw ∧ extract raw <+: raw ∧
    parse (some (extract raw)) = parse (some raw) ∧
    Capabilities.resolve (some (extract raw)) = Capabilities.resolve (some raw) ∧
    (∀ v, parse (some raw) = .ok (some v) ↔ ∃ major minor, Tells major minor raw ∧
      major.length ≤ 4300 ∧ minor.length ≤ 4300 ∧
      v = ⟨major.digitsValue, minor.digitsValue⟩) ∧
    (∀ v, parse (some raw) = .ok v → ∃ profile, Capabilities.resolve (some raw) = .ok profile ∧
      (profile.bearerToken = true ↔
        ∃ major minor, Tells major minor raw ∧ 4 ≤ major.digitsValue)) ∧
    ∀ (w : Wire) (timeout : Option Binary64) (s : Standing) (request : Request),
      w.versionRequest s.desk.current timeout = .ok request →
      Answer.settle (Reply.verdict (Reply.scalar w.codecs)) s.script.head? = .ok raw →
      let kept := (Login.askVersion w timeout s).standing.desk.current.version
      Capabilities.resolve kept = Capabilities.resolve (some raw) ∧
        ∀ token headers, Authorization.ofToken token kept headers =
          Authorization.ofToken token (some raw) headers := by
  refine ⟨extract_extract raw, extract_prefix raw, parse_extract raw,
    resolve_congr (parse_extract raw), parse_eq_some_iff raw, fun v => exists_resolve, ?_⟩
  intro w timeout s request hb ha kept
  have hkept : kept = (s.desk.current.withVersion (some (extract raw))).version := by
    simp only [kept, Login.askVersion_told hb ha]
    rfl
  have hresolve : Capabilities.resolve kept = Capabilities.resolve (some raw) :=
    resolve_congr (by rw [hkept, parse_kept])
  refine ⟨hresolve, fun token headers => ?_⟩
  unfold Authorization.ofToken
  rw [hresolve]

example : extract ("04.00.1" : String) = Text.ofString "04.00" := by decide
example : extract (" 4.5.6" : String) = Text.ofString " 4.5.6" := by decide

end StorageGateway.Version
