import StorageGateway.CommandLine.Perform

/-! Two readers of one environment. The command line and the settings each have their own way with
the variables of a gateway: their own words for no, and their own way with white space. Here is what
each of them makes of an environment that the command line accepts. -/
namespace StorageGateway

namespace Settings

/-- The words for no that the settings take for a yes. -/
def shortNoWords : List Text := ["f", "n"]

/-- The value of a variable; one that is not set has an empty one. -/
def valueOf (env : Environment) (name : Text) : Text := (env.get? name).getD []

/-- Whether a variable says no with a short word. -/
def saysShortNo (env : Environment) (name : Text) : Bool :=
  (valueOf env name).trim.lower ∈ shortNoWords

theorem flag_iff (env : Environment) (name : Text) :
    flag env name = true ↔ (valueOf env name).trim.lower ∉ negativeWords := by
  unfold flag valueOf
  cases env.get? name with
  | none => exact iff_of_false (by simp) (fun h => h (by decide))
  | some value => exact decide_eq_true_iff

end Settings

namespace CommandLine

open Settings (Environment)

/-- Whether a variable says yes to the command line. -/
def saysYes (env : Environment) (o : Opt) : Bool :=
  ((environmental? env o).bind truthValue?).getD false

/-- An environment that tells a command all it has to know, in words that it accepts, and nothing
about certificates and timeouts. -/
structure Readable (env : Environment) (c : Credentials) : Prop where
  endpoint : (environmental? env .endpoint).isSome
  username : environmental? env .username = some c.username
  password : environmental? env .password = some c.password
  insecure : ∀ word, environmental? env .insecure = some word → (truthValue? word).isSome
  useCerts : ∀ word, environmental? env .useCerts = some word → (truthValue? word).isSome
  showHttp : ∀ word, environmental? env .showHttp = some word → (truthValue? word).isSome
  certificate : environmental? env .cert = none
  timeout : Settings.valueOf env Settings.timeoutVariable = []

/-- The words that list the systems. -/
def listingWords : List Text := ["systems", "list"]

theorem forM_of_ok {ε β : Type} {f : β → Except ε Unit} {xs : List β}
    (h : ∀ x ∈ xs, f x = .ok ()) : xs.forM f = .ok () := by
  induction xs with
  | nil => rfl
  | cons x xs ih =>
    change (f x >>= fun _ => xs.forM f) = _
    rw [h x List.mem_cons_self]
    exact ih fun y hy => h y (List.mem_cons_of_mem x hy)

theorem endpoint_envName : Opt.endpoint.envName? = some Settings.endpointVariable := rfl

theorem version_envName : Opt.version.envName? = some Settings.versionVariable := rfl

theorem insecure_envName : Opt.insecure.envName? = some Settings.insecureVariable := rfl

theorem useCerts_envName : Opt.useCerts.envName? = some Settings.trustStoreVariable := rfl

section Flags

variable {env : Environment} {o : Opt} {name : Text}

theorem environmental?_eq (env : Environment) (hn : o.envName? = some name) : environmental? env o =
    if Settings.valueOf env name = [] then none else some (Settings.valueOf env name) := by
  unfold environmental? Settings.valueOf
  rw [hn]
  change (env.get? name).filter (· ≠ []) = _
  cases env.get? name with
  | none => rfl
  | some value => by_cases hv : value = [] <;> simp [hv]

/-- An empty word says nothing, and any other may have to be accepted. -/
theorem accepted_of_value (hn : o.envName? = some name)
    (h : Settings.valueOf env name = [] ∨ (truthValue? (Settings.valueOf env name)).isSome) :
    ∀ word, environmental? env o = some word → (truthValue? word).isSome := by
  intro word hw
  rw [environmental?_eq env hn] at hw
  split at hw
  · cases hw
  · rename_i hne
    cases hw
    exact h.resolve_left hne

theorem chosenFlag_of_accepted
    (h : ∀ word, environmental? env o = some word → (truthValue? word).isSome) :
    chosenFlag env {} o = .ok (saysYes env o) := by
  unfold chosenFlag saysYes
  cases he : environmental? env o with
  | none => rfl
  | some word =>
    obtain ⟨b, hb⟩ := Option.isSome_iff_exists.mp (h word he)
    simp [Given.last?, hb]

theorem yesWords_apart :
    ∀ w ∈ yesWords, w ∉ Settings.negativeWords ∧ w ∉ Settings.shortNoWords := by decide

theorem noWords_apart :
    ∀ w ∈ noWords, w ∉ Settings.negativeWords ↔ w ∈ Settings.shortNoWords := by decide

/-- The settings take a word for a yes if the command line does, or if it is a short no. -/
theorem affirmative_iff_of_truthValue {word : Text} {b : Bool} (h : truthValue? word = some b) :
    (word.trim.lower ∉ Settings.negativeWords ↔
        b = true ∨ word.trim.lower ∈ Settings.shortNoWords) ∧
      (b = true → word.trim.lower ∉ Settings.shortNoWords) := by
  unfold truthValue? at h
  dsimp only at h
  split at h
  · rename_i hy
    obtain ⟨hn, hs⟩ := yesWords_apart _ hy
    cases h
    exact ⟨iff_of_true hn (.inl rfl), fun _ => hs⟩
  · split at h
    · rename_i hno
      cases h
      exact ⟨by simpa using noWords_apart _ hno, fun hb => by cases hb⟩
    · cases h

/-- A flag as the settings read it, and as the command line does. -/
theorem flag_eq (hn : o.envName? = some name)
    (h : ∀ word, environmental? env o = some word → (truthValue? word).isSome) :
    Settings.flag env name = (saysYes env o || Settings.saysShortNo env name) ∧
      (saysYes env o = true → Settings.saysShortNo env name = false) := by
  have he := environmental?_eq env hn
  have hf := Settings.flag_iff env name
  rw [Bool.eq_iff_iff, Bool.or_eq_true, hf, saysYes, Settings.saysShortNo]
  generalize Settings.valueOf env name = word at *
  -- a variable that is not set, or empty, says nothing to either reader
  by_cases hw : word = []
  · rw [if_pos hw] at he
    rw [he, hw]
    decide
  · rw [if_neg hw] at he
    obtain ⟨b, hb⟩ := Option.isSome_iff_exists.mp (h word he)
    obtain ⟨ha, hs⟩ := affirmative_iff_of_truthValue hb
    rw [he, Option.bind_some, hb, Option.getD_some, decide_eq_true_iff, decide_eq_false_iff_not]
    exact ⟨ha, hs⟩

end Flags

/-- The choices that an environment makes for a user who wants the systems listed. -/
def listingChoices (env : Environment) (c : Credentials) : Choices where
  endpoint := Settings.valueOf env Settings.endpointVariable
  username := some c.username
  password := some c.password
  version := environmental? env .version
  insecure := saysYes env .insecure
  useTrustStore := saysYes env .useCerts
  certificate := none
  timeout := Settings.defaultTimeout
  showHttp := saysYes env .showHttp
  json := false
  data := none
  method := []
  path := []

namespace Readable

variable {env : Environment} {c : Credentials} (h : Readable env c)

include h

theorem endpoint_eq :
    environmental? env .endpoint = some (Settings.valueOf env Settings.endpointVariable) := by
  have he := environmental?_eq env endpoint_envName
  rw [he]
  refine if_neg fun hv => ?_
  have hs := h.endpoint
  rw [he, if_pos hv] at hs
  cases hs

/-- Nothing that has to be settled is left open. -/
theorem settles (p : Parameter) (hp : p ∈ settlingOrder .listSystems {}) :
    settle env {} p = .ok () := by
  have hflag {o : Opt} (ho : ∀ word, environmental? env o = some word →
      (truthValue? word).isSome) : (chosenFlag env {} o).map (fun _ => ()) = .ok () := by
    rw [chosenFlag_of_accepted ho]
    rfl
  have hendpoint : (chosenText? env {} .endpoint).isSome := h.endpoint
  obtain ⟨o, -, rfl⟩ := List.mem_map.mp hp
  cases o with
  | endpoint => exact if_pos hendpoint
  | insecure => exact hflag h.insecure
  | useCerts => exact hflag h.useCerts
  | showHttp => exact hflag h.showHttp
  | _ => rfl

theorem ofGiven_listing : Choices.ofGiven .listSystems env {} = .ok (listingChoices env c) := by
  have hsettled : (settlingOrder .listSystems {}).forM (settle env {}) = .ok () :=
    forM_of_ok h.settles
  have hchosen (o : Opt) : chosenText? env {} o = environmental? env o := rfl
  unfold Choices.ofGiven
  dsimp only
  rw [hsettled, chosenFlag_of_accepted h.insecure, chosenFlag_of_accepted h.useCerts,
    chosenFlag_of_accepted h.showHttp]
  simp only [hchosen, h.endpoint_eq, h.username, h.password, h.certificate]
  rfl

/-- A command without options is understood by its environment. -/
theorem understand_listing :
    understand env listingWords = .ok (.listSystems, listingChoices env c) := by
  have hselect : select listingWords = .ok (.listSystems, []) := rfl
  have hscan : scan .listSystems none [] = .ok {} := rfl
  unfold understand
  rw [hselect]
  change (scan .listSystems none [] >>= fun given =>
    Choices.ofGiven .listSystems env given >>= fun choices =>
      pure (Command.listSystems, choices)) = _
  rw [hscan]
  change (Choices.ofGiven .listSystems env {} >>= fun choices =>
    pure (Command.listSystems, choices)) = _
  rw [h.ofGiven_listing]
  rfl

omit h in
theorem ne_nil_of_environmental? {env : Environment} {o : Opt} {value : Text}
    (h : environmental? env o = some value) : value ≠ [] := by
  simpa using (Option.filter_eq_some_iff.mp h).2

/-- What the client of the command is set up with. -/
theorem job_listing (around : Surroundings) :
    (listingChoices env c).job around =
      .ok ⟨c, (listingChoices env c).settings (.ofBool !saysYes env .insecure), none⟩ := by
  have hcredentials : (listingChoices env c).credentials = .ok c := by
    have hkept {value : Text} (hv : value ≠ []) : (some value).filter (· ≠ []) = some value := by
      simp [hv]
    unfold Choices.credentials listingChoices
    dsimp only
    rw [hkept (ne_nil_of_environmental? h.username), hkept (ne_nil_of_environmental? h.password)]
  unfold Choices.job
  rw [hcredentials]
  rfl

end Readable

end CommandLine

end StorageGateway
