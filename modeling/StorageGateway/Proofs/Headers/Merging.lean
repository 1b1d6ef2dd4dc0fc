import StorageGateway.Headers

/-! What headers come to when letter case does not count. Of the values under one name the last
counts; so a header that is written in its place is overridden by a later one in another spelling,
and by nothing else. -/
namespace StorageGateway.Headers

theorem sameName_iff {a b : Text} : sameName a b = true ↔ a.lower = b.lower := by
  simp [sameName]

@[simp] theorem sameName_refl (a : Text) : sameName a a = true := sameName_iff.mpr rfl

/-- A name may take the place of one that is the same. -/
theorem sameName_congr {a b : Text} (h : sameName a b = true) (c : Text) :
    sameName a c = sameName b c := by
  unfold sameName
  rw [sameName_iff.mp h]

/-- The last value under a name when letter case does not count. -/
def latest? (name : Text) : Headers → Option Text
  | [] => none
  | (n, v) :: headers => (latest? name headers).or (if sameName n name then some v else none)

/-- Whether the first header of exactly this name is followed by one of the same name when letter
case does not count. -/
def isRespelled (name : Text) : Headers → Bool
  | [] => false
  | (n, _) :: headers =>
    if n = name then headers.any fun header => sameName header.1 name else isRespelled name headers

section Merging

variable (name other value : Text) (headers : Headers)

theorem getFolded?_cons (n v : Text) :
    getFolded? name ((n, v) :: headers) =
      if sameName n name then some v else getFolded? name headers := by
  cases h : sameName n name <;> simp [getFolded?, h]

theorem getFolded?_putFolded :
    getFolded? other (putFolded name value headers) =
      if sameName name other then some value else getFolded? other headers := by
  induction headers with
  | nil => exact getFolded?_cons other [] name value
  | cons header headers ih =>
    obtain ⟨n, v⟩ := header
    rw [putFolded]
    split
    · rename_i hn
      simp only [getFolded?_cons, sameName_congr hn other]
      split <;> rfl
    · rename_i hn
      simp only [getFolded?_cons, ih]
      split
      · rename_i ho
        rw [if_neg fun hs => hn (sameName_iff.mpr ?_)]
        exact (sameName_iff.mp ho).trans (sameName_iff.mp hs).symm
      · rfl

/-- Merging keeps the last value of each name. -/
theorem getFolded?_folded : getFolded? name (folded headers) = latest? name headers := by
  have merging : ∀ merged : Headers,
      getFolded? name
        (headers.foldl (fun merged header => putFolded header.1 header.2 merged) merged) =
      (latest? name headers).or (getFolded? name merged) := by
    induction headers with
    | nil => exact fun _ => rfl
    | cons header headers ih =>
      obtain ⟨n, v⟩ := header
      intro merged
      rw [List.foldl_cons, ih, getFolded?_putFolded, latest?, Option.or_assoc]
      cases sameName n name <;> rfl
  exact (merging []).trans (Option.or_none)

theorem latest?_isSome :
    (latest? name headers).isSome = headers.any fun header => sameName header.1 name := by
  induction headers with
  | nil => rfl
  | cons header headers ih =>
    obtain ⟨n, v⟩ := header
    rw [latest?, List.any_cons, Option.isSome_or, ih, Bool.or_comm]
    cases sameName n name <;> rfl

/-- A header that is written counts, unless one in another spelling comes after its place. -/
theorem latest?_put_self :
    latest? name (headers.put name value) =
      if isRespelled name headers then latest? name headers else some value := by
  induction headers with
  | nil => simp [Fields.put, latest?, isRespelled]
  | cons header headers ih =>
    obtain ⟨n, v⟩ := header
    rw [Fields.put, isRespelled]
    split
    · rename_i hn
      subst hn
      simp only [latest?, sameName_refl, if_true, ← latest?_isSome]
      cases latest? n headers <;> rfl
    · simp only [latest?, ih]
      split <;> rfl

variable {name other}

theorem latest?_put_of_not_same (h : sameName name other = false) :
    latest? other (headers.put name value) = latest? other headers := by
  induction headers with
  | nil => simp [Fields.put, latest?, h]
  | cons header headers ih =>
    obtain ⟨n, v⟩ := header
    rw [Fields.put]
    split
    · rename_i hn
      subst hn
      simp only [latest?, h, Bool.false_eq_true, if_false]
    · simp only [latest?, ih]

theorem isRespelled_put_of_not_same (h : sameName name other = false) :
    isRespelled other (headers.put name value) = isRespelled other headers := by
  have hne : name ≠ other := by
    rintro rfl
    simp at h
  induction headers with
  | nil => simp [Fields.put, isRespelled, hne]
  | cons header headers ih =>
    obtain ⟨n, v⟩ := header
    rw [Fields.put]
    split
    · rename_i hn
      subst hn
      simp only [isRespelled, if_neg hne]
    · simp only [isRespelled, ih]
      simp only [← latest?_isSome, latest?_put_of_not_same value headers h]

end Merging

/-- Where each name stands once, a respelled one stands before another spelling of it. -/
theorem isRespelled_iff {name : Text} {headers : Headers} (h : (Fields.names headers).Nodup) :
    isRespelled name headers = true ↔ ∃ before value after,
      headers = before ++ (name, value) :: after ∧
        ∃ other ∈ Fields.names after, other ≠ name ∧ sameName other name = true := by
  induction headers with
  | nil =>
    refine iff_of_false Bool.false_ne_true ?_
    rintro ⟨before, value, after, he, -⟩
    cases before <;> cases he
  | cons header headers ih =>
    obtain ⟨n, v⟩ := header
    obtain ⟨hn, hrest⟩ := List.nodup_cons.mp h
    rw [isRespelled]
    split
    · rename_i hname
      subst hname
      constructor
      · intro hany
        obtain ⟨later, hm, hs⟩ := List.any_eq_true.mp hany
        have hl : later.1 ∈ Fields.names headers := List.mem_map_of_mem hm
        exact ⟨[], v, headers, rfl, later.1, hl, fun he => hn (he ▸ hl), hs⟩
      · rintro ⟨before, value, after, he, other, hm, -, hs⟩
        obtain ⟨later, hl, rfl⟩ := List.mem_map.mp hm
        refine List.any_eq_true.mpr ⟨later, ?_, hs⟩
        cases before with
        | nil => cases he; exact hl
        | cons first before => cases he; simp [hl]
    · rename_i hname
      rw [ih hrest]
      constructor
      · rintro ⟨before, value, after, rfl, hm⟩
        exact ⟨(n, v) :: before, value, after, rfl, hm⟩
      · rintro ⟨before, value, after, he, hm⟩
        cases before with
        | nil => cases he; exact absurd rfl hname
        | cons first before => cases he; exact ⟨before, value, after, rfl, hm⟩

/-- The value that counts under a name in the end. -/
def effective? (name : Text) (headers : Headers) : Option Text :=
  (folded headers).getFolded? name

/-- The value that counts under a name once another one is written there. -/
def written? (name value : Text) (headers : Headers) : Option Text :=
  if isRespelled name headers then effective? name headers else some value

section Writing

variable {name other value : Text} {headers : Headers}

theorem effective?_put_self : effective? name (headers.put name value) = written? name value headers := by
  simp only [written?, effective?, getFolded?_folded, latest?_put_self]

theorem effective?_put_of_not_same (h : sameName name other = false) :
    effective? other (headers.put name value) = effective? other headers := by
  simp only [effective?, getFolded?_folded, latest?_put_of_not_same value headers h]

theorem written?_put_of_not_same (h : sameName name other = false) (v : Text) :
    written? other v (headers.put name value) = written? other v headers := by
  simp only [written?, isRespelled_put_of_not_same value headers h, effective?_put_of_not_same h]

end Writing

end StorageGateway.Headers
