import StorageGateway.Proofs.Base64
import StorageGateway.Proofs.Requests

/-! How a token is shown to a gateway of some version: from four on as it is, before that as the
password of nobody. -/
namespace StorageGateway

/-- The number in front of a version, after blanks, and zero where there is none. -/
def Version.leading (version : Option Text) : Nat :=
  (takeDigits (version.getD []).trimStart).1.digitsValue

/-- Whether a header value shows a token in the style of a version. -/
def Authorization.Presents (token : Text) (version : Option Text) (value : Text) : Prop :=
  if 4 ≤ Version.leading version then value = "Bearer " ++ token
  else ∃ digits bytes, value = "Basic " ++ digits ∧
    Bytes.Base64.decode? digits = some (0x3A :: bytes) ∧ Bytes.latin1Text bytes = token

theorem Version.readNumber_ok {digits : Text} {n : Nat} (h : readNumber digits = .ok n) :
    n = digits.digitsValue := by
  unfold readNumber at h
  split at h
  · cases h
  · cases h
    rfl

theorem Capabilities.bearerToken_ofVersion (v : Version) :
    (ofVersion v).bearerToken = decide (4 ≤ v.major) := by
  obtain ⟨major, minor⟩ := v
  have hold : Version.atLeast ⟨major, minor⟩ ⟨0, 0⟩ = true := by
    cases major <;> simp [Version.atLeast]
  have hnew : Version.atLeast ⟨major, minor⟩ ⟨4, 0⟩ = decide (4 ≤ major) := by
    simp only [Version.atLeast, Nat.zero_le, decide_true, Bool.and_true]
    rw [Bool.eq_iff_iff]
    simp
    omega
  simp only [ofVersion, families, legacy, List.foldl_cons, List.foldl_nil, hold, hnew, if_true]
  by_cases h : 4 ≤ major <;> simp [h]

/-- Whether a version that has been read takes a token as it is depends on its leading number. -/
theorem Capabilities.bearerToken_of_parse {version : Option Text} {v : Option Version}
    (h : Version.parse version = .ok v) :
    (ofVersion? v).bearerToken = decide (4 ≤ Version.leading version) := by
  cases version with
  | none => cases h; rfl
  | some t =>
    cases t with
    | nil => cases h; rfl
    | cons c t =>
      unfold Version.parse at h
      dsimp only at h
      split at h
      · cases h
      · obtain ⟨major, hm, h⟩ := ok_of_bind h
        obtain ⟨minor, -, h⟩ := ok_of_bind h
        cases h
        exact (bearerToken_ofVersion ⟨major, minor⟩).trans (by rw [Version.readNumber_ok hm]; rfl)

namespace Authorization

theorem basic_ok {token value : Text} (h : basic [] token = .ok value) :
    ∃ digits bytes, value = "Basic " ++ digits ∧
      Bytes.Base64.decode? digits = some (0x3A :: bytes) ∧ Bytes.latin1Text bytes = token := by
  unfold basic encodeField at h
  cases hb : Bytes.ofLatin1 token with
  | error e => rw [hb] at h; cases h
  | ok bytes =>
    rw [hb] at h
    cases h
    exact ⟨_, bytes, rfl, Bytes.Base64.decode?_encode _, Bytes.latin1Text_of_ofLatin1 hb⟩

variable {token : Text} {version : Option Text} {v : Option Version}

theorem presented_presents {value : Text} (hv : Version.parse version = .ok v)
    (h : presented (Capabilities.ofVersion? v) token = .ok value) : Presents token version value := by
  unfold presented at h
  unfold Presents
  rw [Capabilities.bearerToken_of_parse hv] at h
  split
  · rename_i hl
    rw [if_pos (decide_eq_true hl)] at h
    cases h
    rfl
  · rename_i hl
    rw [if_neg (by simpa using hl)] at h
    exact basic_ok h

end Authorization

/-- A session that has headers has a version that makes sense, or none. -/
theorem Session.parse_of_headers {s : Session} {defaults : Option Headers} {headers : Headers}
    (h : s.headers defaults = .ok headers) : ∃ v, Version.parse s.version = .ok v := by
  cases hv : Version.parse s.version with
  | ok v => exact ⟨v, rfl⟩
  | error e =>
    rw [Session.headers_of_error hv] at h
    cases h

/-- The headers of a session that has a token: the negotiation over the defaults, and a value that
shows the token. -/
theorem Session.headers_with_token {s : Session} {defaults : Option Headers} {headers : Headers}
    (ht : s.token ≠ []) (h : s.headers defaults = .ok headers) :
    ∃ value, Authorization.Presents s.token s.version value ∧
      headers = (Headers.negotiating s.version defaults).put Headers.authorization value := by
  obtain ⟨v, hv⟩ := s.parse_of_headers h
  rw [Session.headers_of_parse hv, Authorization.ofToken_eq ht hv] at h
  cases hp : Authorization.presented (Capabilities.ofVersion? v) s.token with
  | error e => rw [hp] at h; cases h
  | ok value =>
    rw [hp] at h
    cases h
    exact ⟨value, Authorization.presented_presents hv hp, rfl⟩

theorem Session.headers_without_token {s : Session} {defaults : Option Headers} {headers : Headers}
    (ht : s.token = []) (h : s.headers defaults = .ok headers) :
    headers = Headers.negotiating s.version defaults := by
  obtain ⟨v, hv⟩ := s.parse_of_headers h
  rw [Session.headers_of_parse hv, ht] at h
  cases h
  rfl

namespace Headers

/-- The names under which requests set a header by themselves. -/
def ownNames : List Text := [accept, contentType, authorization]

/-- The other headers. -/
def unset (headers : Headers) : Headers := headers.filter fun header => header.1 ∉ ownNames

theorem unset_put {name : Text} (h : name ∈ ownNames) (value : Text)
    (headers : Headers) : unset (headers.put name value) = unset headers := by
  induction headers with
  | nil => simp [Fields.put, unset, h]
  | cons header headers ih =>
    obtain ⟨n, v⟩ := header
    rw [Fields.put]
    split
    · rename_i hn
      subst hn
      simp [unset, h]
    · unfold unset at ih ⊢
      rw [List.filter_cons, List.filter_cons, ih]

end Headers

/-- Those headers are the default ones, whatever the session. -/
theorem Session.headers_unset {s : Session} {defaults : Option Headers} {headers : Headers}
    (h : s.headers defaults = .ok headers) : headers.unset = (defaults.getD []).unset := by
  have hn : (Headers.negotiating s.version defaults).unset = (defaults.getD []).unset := by
    rw [Headers.negotiating, Headers.unset_put (by simp [Headers.ownNames]),
      Headers.unset_put (by simp [Headers.ownNames])]
  by_cases ht : s.token = []
  · rw [headers_without_token ht h]
    exact hn
  · obtain ⟨value, -, rfl⟩ := headers_with_token ht h
    rw [Headers.unset_put (by simp [Headers.ownNames])]
    exact hn

end StorageGateway
