import StorageGateway.Login

/-! What a rejection says when its message is the placeholder for a better one. The details may hold
many entries of any kind; the first of them that has a message should give the words. The words are
taken from the first entry alone, so they are the better ones unless that entry has none and another
one has. Put in the place of the message, with the same details, the words stay what they are. -/
namespace StorageGateway.Failure

/-- The message of an entry: an object may have one, and it counts unless it is empty. -/
def entryMessage? (entry : Json) : Option Text :=
  ((entry.field? "errorMessage").filter Json.isTruthy).map Json.display

/-- The message of the first entry that has one. -/
def detailMessage? : Json → Option Text
  | .arr entries => entries.findSome? entryMessage?
  | _ => none

/-- What a rejection should say: the message of its details for the placeholder, and otherwise its
own. -/
def detailed (f : Failure) : Text :=
  if f.message = placeholder then (detailMessage? f.details).getD f.message else f.message

/-- The first entry has no message, but another one has, and not the placeholder itself. -/
def HidesDetail (f : Failure) : Prop :=
  f.message = placeholder ∧ ∃ first rest message, f.details = .arr (first :: rest) ∧
    entryMessage? first = none ∧ rest.findSome? entryMessage? = some message ∧
    message ≠ placeholder

theorem firstDetail?_cons (first : Json) (rest : List Json) :
    firstDetail? (.arr (first :: rest)) = entryMessage? first := by
  unfold firstDetail? entryMessage?
  cases hv : first.field? "errorMessage" with
  | none => simp [hv]
  | some v => cases ht : v.isTruthy <;> simp [hv, ht, Option.filter]

variable {f : Failure}

theorem text_of_message_ne (h : f.message ≠ placeholder) : f.text = f.message :=
  if_neg fun hp => h hp.2

theorem text_of_placeholder (h : f.kind.isRejection = true) (hm : f.message = placeholder) :
    f.text = (firstDetail? f.details).getD placeholder := by
  rw [text, if_pos ⟨h, hm⟩, hm]

/-- The words are those of the placeholder or of a detail, and either stay when they are put in the
place of the message. -/
theorem text_of_retold {g : Failure} (hg : g.kind.isRejection = true) (h : f.kind.isRejection = true)
    (hm : g.message = f.text) (hd : g.details = f.details) : g.text = f.text := by
  by_cases hp : g.message = placeholder
  · rw [text_of_placeholder hg hp, hd]
    by_cases hf : f.message = placeholder
    · rw [text_of_placeholder h hf]
    · rw [text_of_message_ne hf] at hm
      exact absurd (hm.symm.trans hp) hf
  · rw [text_of_message_ne hp, hm]

theorem text_of_hidesDetail (h : f.HidesDetail) : f.text = placeholder := by
  obtain ⟨hm, first, rest, _, hd, hfirst, -, -⟩ := h
  unfold text
  split
  · rw [hd, firstDetail?_cons, hfirst, hm]
    rfl
  · exact hm

/-- Unless it hides a detail, a rejection says what it should. -/
theorem text_eq_detailed (h : f.kind.isRejection = true) (hn : ¬ f.HidesDetail) :
    f.text = f.detailed := by
  unfold detailed
  split
  · rename_i hm
    rw [text_of_placeholder h hm, hm]
    cases hd : f.details with
    | arr entries =>
      cases entries with
      | nil => rfl
      | cons first rest =>
        rw [firstDetail?_cons, detailMessage?, List.findSome?_cons]
        cases hfirst : entryMessage? first with
        | some message => rfl
        | none =>
          cases hrest : rest.findSome? entryMessage? with
          | none => rfl
          | some message =>
            by_cases hp : message = placeholder
            · rw [hp]
              rfl
            · exact absurd ⟨hm, first, rest, message, hd, hfirst, hrest, hp⟩ hn
    | _ => rfl
  · rename_i hm
    exact text_of_message_ne hm

theorem detailed_of_hidesDetail (h : f.HidesDetail) : f.detailed ≠ placeholder := by
  obtain ⟨hm, first, rest, message, hd, hfirst, hrest, hne⟩ := h
  rw [detailed, if_pos hm, hd, detailMessage?, List.findSome?_cons, hfirst]
  simpa [hrest] using hne

/-- A rejection says what it should if and only if no message of its details is hidden behind a
first entry without one; otherwise it says the placeholder. A rejection with these words and details
has the same words, and so has the failure of a login that was rejected. -/
theorem text_eq_detailed_iff (h : f.kind.isRejection = true) :
    (f.text = f.detailed ↔ ¬ f.HidesDetail) ∧ (f.HidesDetail → f.text = placeholder) ∧
      (∀ g : Failure, g.kind.isRejection = true → g.message = f.text → g.details = f.details →
        g.text = f.text) ∧ (Login.authenticationFailed f).text = f.text := by
  refine ⟨⟨fun he hn => ?_, text_eq_detailed h⟩, text_of_hidesDetail,
    fun g hg hm hd => text_of_retold hg h hm hd, text_of_retold rfl h rfl rfl⟩
  rw [text_of_hidesDetail hn] at he
  exact detailed_of_hidesDetail hn he.symm

/-- A rejected request whose reason is in the details, behind entries of other kinds or not. -/
def mapped (before : List Json) : Failure where
  kind := .rejected
  message := placeholder
  status := some 500
  details := .arr (before ++ [.obj [("errorMessage", .str "volume is mapped")]])

theorem text_of_mapped_first :
    (mapped []).kind.isRejection = true ∧ ¬ (mapped []).HidesDetail ∧
      (mapped []).text = Text.ofString "volume is mapped" := by
  have hn : ¬ (mapped []).HidesDetail := by
    rintro ⟨-, first, rest, message, hd, -, hrest, -⟩
    cases hd
    cases hrest
  exact ⟨rfl, hn, (text_eq_detailed_iff rfl).1.mpr hn⟩

/-- The message of the second entry does not come out. -/
theorem later_detail_is_not_said :
    ¬∀ f : Failure, f.kind.isRejection = true → f.text = f.detailed := by
  intro h
  have hsaid : (mapped [.obj [("rc", .int 1)]]).text = placeholder := by decide +kernel
  have hright : (mapped [.obj [("rc", .int 1)]]).detailed = Text.ofString "volume is mapped" := by
    decide +kernel
  have he := h (mapped [.obj [("rc", .int 1)]]) rfl
  rw [hsaid, hright] at he
  revert he
  decide +kernel

end StorageGateway.Failure
