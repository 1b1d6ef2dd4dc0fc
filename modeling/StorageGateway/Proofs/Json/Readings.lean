import StorageGateway.Proofs.Json.Rereading

/-! What was read can be written and read again: in a text without halves of code points, every
value that is read is a readable one. The proof goes along the readers, each of which takes a part
off the text and leaves the rest. -/
namespace StorageGateway

namespace Fields

variable {β : Type} {name : Text} {value : β} {fields : Fields β} {p : Text × β → Prop}

theorem forall_put (hn : p (name, value)) (h : ∀ field ∈ fields, p field) :
    ∀ field ∈ put name value fields, p field := by
  induction fields with
  | nil => simpa [put] using hn
  | cons field fields ih =>
    obtain ⟨hfield, hfields⟩ := List.forall_mem_cons.mp h
    obtain ⟨n, v⟩ := field
    simp only [put]
    split
    · rename_i hsame
      exact List.forall_mem_cons.mpr ⟨hsame ▸ hn, hfields⟩
    · exact List.forall_mem_cons.mpr ⟨hfield, ih hfields⟩

theorem nodup_put (h : fields.names.Nodup) : (put name value fields).names.Nodup := by
  rw [names_put]
  split
  · exact h
  · rename_i hnew
    refine List.nodup_append.mpr ⟨h, List.nodup_singleton name, fun n hn m hm => ?_⟩
    rintro rfl
    exact hnew (List.mem_singleton.mp hm ▸ hn)

/-- Of pairs that are written one after the other each name is kept once. -/
theorem ofPairs_spec {pairs : List (Text × β)} (h : ∀ field ∈ pairs, p field) :
    (ofPairs pairs).names.Nodup ∧ ∀ field ∈ ofPairs pairs, p field := by
  have hfold (fields : Fields β) (hn : fields.names.Nodup) (hf : ∀ field ∈ fields, p field) :
      let all := pairs.foldl (fun fields (field : Text × β) => put field.1 field.2 fields) fields
      all.names.Nodup ∧ ∀ field ∈ all, p field := by
    induction pairs generalizing fields with
    | nil => exact ⟨hn, hf⟩
    | cons pair pairs ih =>
      obtain ⟨hpair, hpairs⟩ := List.forall_mem_cons.mp h
      exact ih hpairs _ (nodup_put hn) (forall_put hpair hf)
  exact hfold [] List.nodup_nil (List.forall_mem_nil _)

end Fields

theorem Text.digitsValue_lt (t : Text) : t.digitsValue < 10 ^ t.length := by
  induction t using List.reverseRecOn with
  | nil => exact Nat.one_pos
  | append_singleton t c ih =>
    have hdigit : c.digitValue?.getD 0 < 10 := by
      cases hc : c.digitValue? with
      | none => exact Nat.succ_pos 9
      | some d => exact CodePoint.digitValue?_lt hc
    rw [digitsValue_concat, List.length_append, List.length_singleton, Nat.pow_succ]
    omega

/-- Digits write no number that has more of them. -/
theorem Decimal.length_natural_digitsValue {t : Text} (h : t ≠ []) :
    (natural t.digitsValue).length ≤ t.length := by
  rw [natural, List.length_map]
  exact (Nat.length_toDigits_le_iff (by decide) (List.length_pos_iff.mpr h)).mpr t.digitsValue_lt

namespace Json

/-- If something was read, it has a property, and the rest of the text is left. -/
def Takes {α : Type} (t : Text) (p : α → Prop) (r : Except Stop (α × Text)) : Prop :=
  ∀ a rest, r = .ok (a, rest) → p a ∧ rest <:+ t

namespace Takes

variable {α β : Type} {t : Text} {p : α → Prop} {q : β → Prop}

theorem error (stop : Stop) : Takes t p (.error stop) := fun _ _ h => by cases h

theorem ok {a : α} {rest : Text} (ha : p a) (hr : rest <:+ t) : Takes t p (.ok (a, rest)) := by
  intro _ _ h
  cases h
  exact ⟨ha, hr⟩

theorem map {f : α → β} {r : Except Stop (α × Text)} (h : Takes t p r) (hf : ∀ a, p a → q (f a)) :
    Takes t q (r.map fun (a, rest) => (f a, rest)) := by
  cases r with
  | error stop => exact error stop
  | ok r =>
    obtain ⟨ha, hr⟩ := h r.1 r.2 rfl
    exact ok (hf _ ha) hr

theorem bind {r : Except Stop (α × Text)} {next : α × Text → Except Stop (β × Text)}
    (h : Takes t p r) (hn : ∀ a rest, p a → rest <:+ t → Takes t q (next (a, rest))) :
    Takes t q (r >>= next) := by
  cases r with
  | error stop => exact error stop
  | ok r =>
    obtain ⟨ha, hr⟩ := h r.1 r.2 rfl
    exact hn r.1 r.2 ha hr

/-- What is taken off a rest is taken off the whole text. -/
theorem of_suffix {u : Text} {r : Except Stop (α × Text)} (h : Takes u p r) (hu : u <:+ t) :
    Takes t p r := fun a rest hr => ⟨(h a rest hr).1, (h a rest hr).2.trans hu⟩

end Takes

theorem IsScalar.of_suffix {t u : Text} (h : IsScalar t) (hu : u <:+ t) : IsScalar u :=
  fun c hc => h c (hu.subset hc)

/-! Strings. -/

/-- Halves are there by their escapes only. -/
def Piece.IsScalar : Piece → Prop
  | plain c => c.isSurrogate = false
  | escaped _ => True

theorem shortEscape?_isScalar {letter c : CodePoint} (h : shortEscape? letter = some c) :
    c.isSurrogate = false := by
  unfold shortEscape? at h
  split at h
  · rename_i hself
    obtain rfl := Option.some.inj h
    rcases hself with rfl | rfl | rfl <;> decide
  · repeat' split at h
    all_goals cases h <;> decide

theorem readPieces_takes {t : Text} (ht : IsScalar t) (opening : ℕ) :
    Takes t (∀ piece ∈ ·, piece.IsScalar) (readPieces opening t) := by
  have hprepend {t u : Text} {piece : Piece} {r : Except Stop (List Piece × Text)}
      (h : Takes u (∀ piece ∈ ·, piece.IsScalar) r) (hpiece : piece.IsScalar) (hu : u <:+ t) :
      Takes t (∀ piece ∈ ·, piece.IsScalar) (prepend piece r) :=
    (h.of_suffix hu).map fun _ hrest => List.forall_mem_cons.mpr ⟨hpiece, hrest⟩
  fun_induction readPieces opening t with
  | case2 t => exact .ok (List.forall_mem_nil _) (List.suffix_cons _ t)
  | case5 a b c d rest unit hunit hrest hmark ih =>
    have hu : rest <:+ CodePoint.backslash :: 0x75 :: a :: b :: c :: d :: rest :=
      ⟨[CodePoint.backslash, 0x75, a, b, c, d], rfl⟩
    exact hprepend (ih (ht.of_suffix hu)) trivial hu
  | case8 kind t hkind meaning hmeaning hmark ih =>
    have hu : t <:+ CodePoint.backslash :: kind :: t := ⟨[CodePoint.backslash, kind], rfl⟩
    exact hprepend (ih (ht.of_suffix hu)) (shortEscape?_isScalar hmeaning) hu
  | case11 c t hmark hescape hlow ih =>
    have hu : t <:+ c :: t := List.suffix_cons c t
    exact hprepend (ih (ht.of_suffix hu)) (ht c List.mem_cons_self) hu
  | _ => exact Takes.error _

theorem isSurrogate_of_half {c : CodePoint}
    (h : c.isHighSurrogate = true ∨ c.isLowSurrogate = true) : c.isSurrogate = true := by
  simp only [CodePoint.isHighSurrogate, CodePoint.isLowSurrogate, CodePoint.isSurrogate,
    Bool.and_eq_true, decide_eq_true_eq] at h ⊢
  omega

theorem isSurrogate_ofHalves {high low : CodePoint} (hh : high.isHighSurrogate = true)
    (hl : low.isLowSurrogate = true) : (CodePoint.ofHalves high low).isSurrogate = false := by
  simp only [CodePoint.isHighSurrogate, CodePoint.isLowSurrogate, Bool.and_eq_true,
    decide_eq_true_eq] at hh hl
  have hval : (CodePoint.ofHalves high low).val =
      0x10000 + (high.val - 0xD800) * 0x400 + (low.val - 0xDC00) :=
    CodePoint.val_ofNat_of_lt (by omega)
  simp only [CodePoint.isSurrogate, hval, Bool.and_eq_false_iff, decide_eq_false_iff_not]
  omega

/-- A half that stands first was escaped. -/
theorem head_joinPieces {pieces : List Piece} (h : ∀ piece ∈ pieces, piece.IsScalar)
    {d : CodePoint} (hd : d ∈ (joinPieces pieces).head?) (hs : d.isSurrogate = true) :
    ∃ rest, pieces = .escaped d :: rest := by
  fun_cases joinPieces pieces with
  | case1 high low rest hpair =>
    obtain ⟨hh, hl⟩ := Bool.and_eq_true_iff.mp hpair
    obtain rfl : CodePoint.ofHalves high low = d := by simpa [joinPieces, hpair] using hd
    rw [isSurrogate_ofHalves hh hl] at hs
    cases hs
  | case2 high low rest hpair =>
    obtain rfl : high = d := by simpa [joinPieces, hpair] using hd
    exact ⟨_, rfl⟩
  | case3 unit rest hrest =>
    rw [joinPieces.eq_2 _ _ hrest] at hd
    obtain rfl : unit = d := by simpa using hd
    exact ⟨_, rfl⟩
  | case4 c rest =>
    obtain rfl : c = d := by simpa [joinPieces] using hd
    have hc : c.isSurrogate = false := h _ List.mem_cons_self
    rw [hc] at hs
    cases hs
  | case5 => cases hd

/-- Halves that are still there make no pair. -/
theorem isJoined_joinPieces {pieces : List Piece} (h : ∀ piece ∈ pieces, piece.IsScalar) :
    IsJoined (joinPieces pieces) := by
  -- A code point in front of joined pieces is the first of a pair only if it was escaped, and the
  -- piece after it too.
  have hcons {c : CodePoint} {rest : List Piece} (hrest : ∀ piece ∈ rest, piece.IsScalar)
      (hc : ∀ low later, c.isHighSurrogate = true → low.isLowSurrogate = true →
        rest ≠ .escaped low :: later) (ih : IsJoined (joinPieces rest)) :
      IsJoined (c :: joinPieces rest) := by
    refine List.isChain_cons.mpr ⟨fun d hd hpair => ?_, ih⟩
    obtain ⟨later, hlater⟩ := head_joinPieces hrest hd (isSurrogate_of_half (.inr hpair.2))
    exact hc d later hpair.1 hpair.2 hlater
  have hno {c : CodePoint} (hc : c.isSurrogate = false) : c.isHighSurrogate ≠ true := fun hh => by
    rw [isSurrogate_of_half (.inl hh)] at hc
    cases hc
  fun_induction joinPieces pieces with
  | case1 high low rest hpair ih =>
    obtain ⟨hh, hl⟩ := Bool.and_eq_true_iff.mp hpair
    have hrest := (List.forall_mem_cons.mp (List.forall_mem_cons.mp h).2).2
    exact hcons hrest (fun _ _ hc => absurd hc (hno (isSurrogate_ofHalves hh hl))) (ih hrest)
  | case2 high low rest hpair ih =>
    have hrest := (List.forall_mem_cons.mp h).2
    refine hcons hrest (fun second later hh hl hlater => ?_) (ih hrest)
    cases hlater
    exact hpair (Bool.and_eq_true_iff.mpr ⟨hh, hl⟩)
  | case3 unit rest hescaped ih =>
    have hrest := (List.forall_mem_cons.mp h).2
    exact hcons hrest (fun low later _ _ hlater => hescaped low later hlater) (ih hrest)
  | case4 c rest ih =>
    obtain ⟨hc, hrest⟩ := List.forall_mem_cons.mp h
    exact hcons hrest (fun _ _ hh => absurd hh (hno hc)) (ih hrest)
  | case5 => exact List.isChain_nil

theorem readText_takes {t : Text} (ht : IsScalar t) : Takes t IsJoined (readText t) :=
  (readPieces_takes ht (t.length + 1)).map fun _ => isJoined_joinPieces

/-! Numbers and words. -/

theorem takePlaces_suffix (t : Text) : (takePlaces t).2 <:+ t := by
  unfold takePlaces
  split
  · dsimp only
    split
    · exact (List.dropWhile_suffix _).trans (List.suffix_cons _ _)
    · exact List.suffix_rfl
  · exact List.suffix_rfl

theorem takeExponent_suffix (t : Text) : (takeExponent t).2 <:+ t := by
  cases t with
  | nil => exact List.suffix_rfl
  | cons c t =>
    have hdrop {u : Text} (hu : u <:+ t) : u.dropWhile CodePoint.isAsciiDigit <:+ c :: t :=
      ((List.dropWhile_suffix _).trans hu).trans (List.suffix_cons c t)
    unfold takeExponent
    dsimp only
    split
    · cases t with
      | nil => exact List.suffix_rfl
      | cons s r =>
        have hne : (0x2B : CodePoint) ≠ 0x2D := by decide
        by_cases hminus : s = 0x2D
        · subst hminus
          simp only [if_true]
          split
          · exact List.suffix_rfl
          · exact hdrop (List.suffix_cons _ r)
        · by_cases hplus : s = 0x2B
          · subst hplus
            simp only [hne, if_true, if_false]
            split
            · exact List.suffix_rfl
            · exact hdrop (List.suffix_cons _ r)
          · simp only [hminus, hplus, if_false]
            split
            · exact List.suffix_rfl
            · exact hdrop List.suffix_rfl
    · exact List.suffix_rfl

theorem takeWhole_suffix (t : Text) : (takeWhole t).2 <:+ t := by
  unfold takeWhole
  split
  · split
    · exact List.suffix_cons _ _
    · exact List.dropWhile_suffix _
  · exact List.suffix_rfl

/-- An integer has no more digits than its text, and a number with a point is rounded to one of the
format. -/
theorem readUnsigned_takes (negative : Bool) (start : ℕ) (t : Text) :
    Takes t Readable (readUnsigned negative start t) := by
  have hwhole := takeWhole_suffix t
  unfold readUnsigned
  generalize takeWhole t = whole at *
  obtain ⟨whole, rest⟩ := whole
  have hplaces := (takePlaces_suffix rest).trans hwhole
  dsimp only at *
  split
  · exact Takes.error _
  · rename_i hne
    generalize takePlaces rest = places at *
    obtain ⟨places, rest⟩ := places
    have hexponent := (takeExponent_suffix rest).trans hplaces
    dsimp only at *
    split
    · split
      · exact Takes.error _
      · rename_i hmost
        refine .ok (.int _ ?_) hexponent
        have habs (n : ℕ) : (if negative = true then -(n : ℤ) else n).natAbs = n := by
          cases negative <;> simp
        rw [habs]
        exact (Decimal.length_natural_digitsValue hne).trans (not_lt.mp hmost)
    · exact .ok (.float _ (Binary64.ofDecimal_isProper negative _ _)) hexponent

theorem takeWord_takes {t : Text} {v : Json} {rest : Text} (h : takeWord t = some (v, rest)) :
    Readable v ∧ rest <:+ t := by
  have hwords : ∀ word ∈ wordValues, Readable word.2 := by
    simp only [wordValues, List.forall_mem_cons]
    exact ⟨.null, .bool true, .bool false, .float _ trivial, .float _ trivial, .float _ trivial,
      List.forall_mem_nil _⟩
  obtain ⟨⟨word, value⟩, hmem, hword⟩ := List.exists_of_findSome?_eq_some h
  obtain ⟨left, hleft, hsame⟩ := Option.map_eq_some_iff.mp hword
  cases hsame
  exact ⟨hwords _ hmem, word, List.isPrefixOf?_eq_some_iff_append_eq.mp hleft⟩

theorem readLeaf_takes {t : Text} (ht : IsScalar t) : Takes t Readable (readLeaf t) := by
  unfold readLeaf
  cases hword : takeWord t with
  | some word =>
    obtain ⟨hv, hrest⟩ := takeWord_takes hword
    exact .ok hv hrest
  | none =>
    cases t with
    | nil => exact Takes.error _
    | cons c r =>
      have hr : r <:+ c :: r := List.suffix_cons c r
      dsimp only
      split
      · exact ((readText_takes (ht.of_suffix hr)).map fun s => Readable.str s).of_suffix hr
      · split
        · exact (readUnsigned_takes true _ r).of_suffix hr
        · exact readUnsigned_takes false _ (c :: r)

/-! Values. -/

theorem skipGap_suffix (t : Text) : skipGap t <:+ t := List.dropWhile_suffix _

theorem readable_ofPairs {pairs : List (Text × Json)}
    (h : ∀ field ∈ pairs, IsJoined field.1 ∧ Readable field.2) :
    Readable (.obj (Fields.ofPairs pairs)) := by
  obtain ⟨hnames, hall⟩ := Fields.ofPairs_spec h
  exact .obj _ hnames (fun field hf => (hall field hf).1) fun field hf => (hall field hf).2

/-- What the readers take with some fuel. -/
structure TakesAll (fuel : ℕ) : Prop where
  value : ∀ {t}, IsScalar t → Takes t Readable (readValue fuel t)
  items : ∀ {t}, IsScalar t → Takes t (∀ v ∈ ·, Readable v) (readItems fuel t)
  fields : ∀ {t}, IsScalar t →
    Takes t (∀ field ∈ ·, IsJoined field.1 ∧ Readable field.2) (readFields fuel t)

namespace TakesAll

variable {fuel : ℕ} {t : Text}

theorem value_succ (h : TakesAll fuel) (ht : IsScalar t) :
    Takes t Readable (readValue (fuel + 1) t) := by
  cases t with
  | nil => exact Takes.error _
  | cons c r =>
    have hgap : skipGap r <:+ c :: r := (skipGap_suffix r).trans (List.suffix_cons c r)
    have hitems := h.items (ht.of_suffix hgap)
    have hfields := h.fields (ht.of_suffix hgap)
    rw [readValue.eq_def]
    dsimp only
    generalize skipGap r = u at *
    split
    · cases u with
      | nil => exact Takes.error _
      | cons e rest =>
        have hrest : rest <:+ c :: r := (List.suffix_cons e rest).trans hgap
        dsimp only
        split
        · exact .ok (.arr [] (List.forall_mem_nil _)) hrest
        · exact (hitems.map fun l => Readable.arr l).of_suffix hgap
    · split
      · cases u with
        | nil => exact Takes.error _
        | cons e rest =>
          have hrest : rest <:+ c :: r := (List.suffix_cons e rest).trans hgap
          dsimp only
          split
          · exact .ok (.obj [] List.nodup_nil (List.forall_mem_nil _) (List.forall_mem_nil _)) hrest
          · exact (hfields.map fun pairs => readable_ofPairs).of_suffix hgap
      · exact readLeaf_takes ht

theorem items_succ (h : TakesAll fuel) (ht : IsScalar t) :
    Takes t (∀ v ∈ ·, Readable v) (readItems (fuel + 1) t) := by
  rw [readItems.eq_def]
  dsimp only
  refine (h.value ht).bind fun v rest hv hrest => ?_
  have hgap := (skipGap_suffix rest).trans hrest
  dsimp only
  generalize skipGap rest = u at *
  cases u with
  | nil => exact Takes.error _
  | cons e rest =>
    have hrest : rest <:+ t := (List.suffix_cons e rest).trans hgap
    have hnext : skipGap rest <:+ t := (skipGap_suffix rest).trans hrest
    dsimp only
    split
    · exact .ok (List.forall_mem_singleton.mpr hv) hrest
    · split
      · exact ((h.items (ht.of_suffix hnext)).map fun l hl =>
          List.forall_mem_cons.mpr ⟨hv, hl⟩).of_suffix hnext
      · exact Takes.error _

/-- The end of a field, and what comes after it. -/
theorem fields_end (h : TakesAll fuel) (ht : IsScalar t) {field : Text × Json} {rest : Text}
    (hfield : IsJoined field.1 ∧ Readable field.2) (hrest : rest <:+ t) :
    Takes t (∀ field ∈ ·, IsJoined field.1 ∧ Readable field.2)
      (match skipGap rest with
        | e :: rest =>
          if e = CodePoint.closeBrace then .ok ([field], rest)
          else if e = CodePoint.comma then
            (readFields fuel (skipGap rest)).map fun (fields, rest) => (field :: fields, rest)
          else .error (.at .itemSeparator (rest.length + 1))
        | [] => .error (.at .itemSeparator 0)) := by
  have hgap := (skipGap_suffix rest).trans hrest
  generalize skipGap rest = u at *
  cases u with
  | nil => exact Takes.error _
  | cons e rest =>
    have hrest : rest <:+ t := (List.suffix_cons e rest).trans hgap
    have hnext : skipGap rest <:+ t := (skipGap_suffix rest).trans hrest
    dsimp only
    split
    · exact .ok (List.forall_mem_singleton.mpr hfield) hrest
    · split
      · refine ((h.fields (ht.of_suffix hnext)).map fun l hl => ?_).of_suffix hnext
        exact List.forall_mem_cons.mpr ⟨hfield, hl⟩
      · exact Takes.error _

theorem fields_succ (h : TakesAll fuel) (ht : IsScalar t) :
    Takes t (∀ field ∈ ·, IsJoined field.1 ∧ Readable field.2) (readFields (fuel + 1) t) := by
  cases t with
  | nil => exact Takes.error _
  | cons c r =>
    have hr : r <:+ c :: r := List.suffix_cons c r
    rw [readFields.eq_def]
    dsimp only
    split
    · refine ((readText_takes (ht.of_suffix hr)).of_suffix hr).bind fun name rest hname hrest => ?_
      have hgap := (skipGap_suffix rest).trans hrest
      dsimp only
      generalize skipGap rest = u at *
      cases u with
      | nil => exact Takes.error _
      | cons s rest =>
        have hvalue := (skipGap_suffix rest).trans ((List.suffix_cons s rest).trans hgap)
        dsimp only
        split
        · refine ((h.value (ht.of_suffix hvalue)).of_suffix hvalue).bind fun v rest hv hrest => ?_
          exact h.fields_end ht ⟨hname, hv⟩ hrest
        · exact Takes.error _
    · exact Takes.error _

end TakesAll

theorem takesAll (fuel : ℕ) : TakesAll fuel := by
  induction fuel with
  | zero => exact ⟨fun _ => Takes.error _, fun _ => Takes.error _, fun _ => Takes.error _⟩
  | succ fuel ih => exact ⟨ih.value_succ, ih.items_succ, ih.fields_succ⟩

theorem readable_of_readWhole {t : Text} (ht : IsScalar t) {v : Json} (h : readWhole t = .ok v) :
    Readable v := by
  have htakes := (takesAll (2 * t.length + 2)).value (ht.of_suffix (skipGap_suffix t))
  unfold readWhole at h
  cases hr : readValue (2 * t.length + 2) (skipGap t) with
  | error stop =>
    rw [hr] at h
    cases h
  | ok r =>
    rw [hr] at h
    simp only [bind, Except.bind] at h
    split at h
    · cases h
      exact (htakes _ _ hr).1
    · cases h

/-- What is read of a text without halves can be written and read again. -/
theorem readable_of_read {t : Text} (ht : IsScalar t) {v : Json} (h : read t = .ok v) :
    Readable v := by
  have hwhole (h : (readWhole t).mapError (Stop.inText t) = .ok v) : Readable v := by
    cases hr : readWhole t with
    | error stop =>
      rw [hr] at h
      cases h
    | ok w =>
      rw [hr] at h
      cases h
      exact readable_of_readWhole ht hr
  unfold read at h
  split at h
  · split at h
    · cases h
    · exact hwhole h
  · exact hwhole h

end Json

end StorageGateway
