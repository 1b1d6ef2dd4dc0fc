import StorageGateway.Dispatch

/-! The requests that a session makes, and what becomes of one that cannot be made: it fails for its
own reasons, a version that makes no sense, a text that does not encode or an address that is none,
and never as a token that was turned down. -/
namespace StorageGateway

namespace Wire

/-- The request for a resource in a session. -/
def resourceRequest (w : Wire) (s : Session) (order : Order) : Except Fault Request := do
  let url ← s.resolve order.path
  let headers ← s.headers w.defaultHeaders
  return w.request order.method url headers order.params order.body order.timeout

/-- The request for the version of the protocol in a session. -/
def versionRequest (w : Wire) (s : Session) (timeout : Option Binary64) : Except Fault Request := do
  let headers ← s.headers w.defaultHeaders
  let url ← s.resolve Login.versionPath
  return w.request Login.getMethod url headers none none timeout

/-- The request that logs in. Of the session it shows the version, and neither token nor
credentials. -/
def loginRequest (w : Wire) (s : Session) (c : Credentials) (timeout : Option Binary64) :
    Except Fault Request := do
  let headers ← Authorization.ofCredentials c (Headers.negotiating s.version w.defaultHeaders)
  let url ← s.resolve Login.loginPath
  return w.request Login.getMethod url headers none none timeout

end Wire

section Inversion

variable {α β : Type} {x : Except Fault α} {next : α → Except Fault β}

/-- Two steps succeed only if both do. -/
theorem ok_of_bind {b : β} (h : x >>= next = .ok b) : ∃ a, x = .ok a ∧ next a = .ok b := by
  cases x with
  | ok a => exact ⟨a, rfl, h⟩
  | error e => cases h

/-- The fault of two steps is that of one of them. -/
theorem error_of_bind {fault : Fault} (h : x >>= next = .error fault) :
    x = .error fault ∨ ∃ a, x = .ok a ∧ next a = .error fault := by
  cases x with
  | ok a => exact .inr ⟨a, rfl, h⟩
  | error e => exact .inl (by cases h; rfl)

end Inversion

namespace Wire

variable {w : Wire} {s : Session} {order : Order} {c : Credentials} {timeout : Option Binary64}
  {request : Request} {fault : Fault}

theorem resourceRequest_ok (h : w.resourceRequest s order = .ok request) :
    ∃ url headers, s.resolve order.path = .ok url ∧ s.headers w.defaultHeaders = .ok headers ∧
      request = w.request order.method url headers order.params order.body order.timeout := by
  obtain ⟨url, hu, h⟩ := ok_of_bind h
  obtain ⟨headers, hh, h⟩ := ok_of_bind h
  exact ⟨url, headers, hu, hh, by cases h; rfl⟩

theorem resourceRequest_error (h : w.resourceRequest s order = .error fault) :
    s.resolve order.path = .error fault ∨
      ∃ url, s.resolve order.path = .ok url ∧ s.headers w.defaultHeaders = .error fault := by
  obtain hu | ⟨url, hu, h⟩ := error_of_bind h
  · exact .inl hu
  · obtain hh | ⟨headers, -, h⟩ := error_of_bind h
    · exact .inr ⟨url, hu, hh⟩
    · cases h

theorem versionRequest_ok (h : w.versionRequest s timeout = .ok request) :
    ∃ headers url, s.headers w.defaultHeaders = .ok headers ∧
      s.resolve Login.versionPath = .ok url ∧
      request = w.request Login.getMethod url headers none none timeout := by
  obtain ⟨headers, hh, h⟩ := ok_of_bind h
  obtain ⟨url, hu, h⟩ := ok_of_bind h
  exact ⟨headers, url, hh, hu, by cases h; rfl⟩

theorem versionRequest_error (h : w.versionRequest s timeout = .error fault) :
    s.headers w.defaultHeaders = .error fault ∨
      ∃ headers, s.headers w.defaultHeaders = .ok headers ∧
        s.resolve Login.versionPath = .error fault := by
  obtain hh | ⟨headers, hh, h⟩ := error_of_bind h
  · exact .inl hh
  · obtain hu | ⟨url, -, h⟩ := error_of_bind h
    · exact .inr ⟨headers, hh, hu⟩
    · cases h

theorem loginRequest_ok (h : w.loginRequest s c timeout = .ok request) :
    ∃ headers url,
      Authorization.ofCredentials c (Headers.negotiating s.version w.defaultHeaders) =
        .ok headers ∧
      s.resolve Login.loginPath = .ok url ∧
      request = w.request Login.getMethod url headers none none timeout := by
  obtain ⟨headers, hh, h⟩ := ok_of_bind h
  obtain ⟨url, hu, h⟩ := ok_of_bind h
  exact ⟨headers, url, hh, hu, by cases h; rfl⟩

theorem loginRequest_error (h : w.loginRequest s c timeout = .error fault) :
    Authorization.ofCredentials c (Headers.negotiating s.version w.defaultHeaders) =
        .error fault ∨
      ∃ headers,
        Authorization.ofCredentials c (Headers.negotiating s.version w.defaultHeaders) =
          .ok headers ∧
        s.resolve Login.loginPath = .error fault := by
  obtain hh | ⟨headers, hh, h⟩ := error_of_bind h
  · exact .inl hh
  · obtain hu | ⟨url, -, h⟩ := error_of_bind h
    · exact .inr ⟨headers, hh, hu⟩
    · cases h

end Wire

/-- The capabilities at a version that has been read; without one they are the oldest. -/
def Capabilities.ofVersion? (version : Option Version) : Capabilities :=
  (version.map Capabilities.ofVersion).getD Capabilities.legacy

theorem Capabilities.resolve_of_parse {version : Option Text} {v : Option Version}
    (h : Version.parse version = .ok v) : resolve version = .ok (ofVersion? v) := by
  unfold resolve
  rw [h]
  cases v <;> rfl

namespace Authorization

/-- How a token is shown with certain capabilities. -/
def presented (capabilities : Capabilities) (token : Text) : Except Fault Text :=
  if capabilities.bearerToken then .ok (bearer token) else basic [] token

theorem ofCredentials_eq (c : Credentials) (headers : Headers) :
    ofCredentials c headers =
      (basic c.username c.password).map fun value => headers.put Headers.authorization value := by
  unfold ofCredentials
  cases basic c.username c.password <;> rfl

theorem ofToken_eq {token : Text} (ht : token ≠ []) {version : Option Text}
    {v : Option Version} (hv : Version.parse version = .ok v) (headers : Headers) :
    ofToken token version headers = (presented (Capabilities.ofVersion? v) token).map
      fun value => headers.put Headers.authorization value := by
  unfold ofToken presented
  rw [if_neg ht, Capabilities.resolve_of_parse hv]
  change (if (Capabilities.ofVersion? v).bearerToken then
      Except.ok (bearer token) >>= fun value => pure (headers.put Headers.authorization value)
    else basic [] token >>= fun value => pure (headers.put Headers.authorization value)) = _
  split
  · rfl
  · cases basic [] token <;> rfl

theorem basic_calm {username password : Text} {fault : Fault}
    (h : basic username password = .error fault) : Dispatch.isUnauthorized fault = false := by
  unfold basic encodeField at h
  cases hu : Bytes.ofLatin1 username with
  | error e => rw [hu] at h; cases h; rfl
  | ok user =>
    cases hp : Bytes.ofLatin1 password with
    | error e => rw [hu, hp] at h; cases h; rfl
    | ok pass => rw [hu, hp] at h; cases h

theorem presented_calm {capabilities : Capabilities} {token : Text} {fault : Fault}
    (h : presented capabilities token = .error fault) : Dispatch.isUnauthorized fault = false := by
  unfold presented at h
  split at h
  · cases h
  · exact basic_calm h

end Authorization

/-- A version that makes no sense is found out before the token is looked at. -/
theorem Session.headers_of_error {s : Session} {defaults : Option Headers} {fault : Fault}
    (h : Version.parse s.version = .error fault) : s.headers defaults = .error fault := by
  unfold Session.headers
  rw [h]
  rfl

theorem Session.headers_of_parse {s : Session} {defaults : Option Headers} {v : Option Version}
    (h : Version.parse s.version = .ok v) :
    s.headers defaults =
      Authorization.ofToken s.token s.version (Headers.negotiating s.version defaults) := by
  unfold Session.headers
  rw [h]
  rfl

theorem Version.parse_calm {version : Option Text} {fault : Fault}
    (h : parse version = .error fault) : Dispatch.isUnauthorized fault = false := by
  have hn : ∀ digits fault, readNumber digits = .error fault →
      Dispatch.isUnauthorized fault = false := by
    intro digits fault h
    unfold readNumber at h
    split at h <;> cases h
    rfl
  unfold parse at h
  split at h
  · cases h
  · cases h
  · rename_i t _
    dsimp only at h
    split at h
    · cases h; rfl
    · obtain hm | ⟨major, -, h⟩ := error_of_bind h
      · exact hn _ _ hm
      · obtain hi | ⟨minor, -, h⟩ := error_of_bind h
        · exact hn _ _ hi
        · cases h

theorem Session.headers_calm {s : Session} {defaults : Option Headers} {fault : Fault}
    (h : s.headers defaults = .error fault) : Dispatch.isUnauthorized fault = false := by
  cases hv : Version.parse s.version with
  | error e =>
    rw [Session.headers_of_error hv] at h
    cases h
    exact Version.parse_calm hv
  | ok v =>
    rw [Session.headers_of_parse hv] at h
    by_cases ht : s.token = []
    · rw [ht] at h; cases h
    · rw [Authorization.ofToken_eq ht hv] at h
      cases hp : Authorization.presented (Capabilities.ofVersion? v) s.token with
      | error e => rw [hp] at h; cases h; exact Authorization.presented_calm hp
      | ok value => rw [hp] at h; cases h

theorem Session.resolve_calm {s : Session} {path : Text} {fault : Fault}
    (h : s.resolve path = .error fault) : Dispatch.isUnauthorized fault = false := by
  unfold Session.resolve at h
  cases hr : Endpoint.resolve s.endpoint path with
  | error e => rw [hr] at h; cases h; rfl
  | ok url => rw [hr] at h; cases h

theorem Wire.resourceRequest_calm {w : Wire} {s : Session} {order : Order} {fault : Fault}
    (h : w.resourceRequest s order = .error fault) : Dispatch.isUnauthorized fault = false := by
  obtain hu | ⟨url, -, hh⟩ := resourceRequest_error h
  · exact Session.resolve_calm hu
  · exact Session.headers_calm hh

/-- The headers show nothing of a session but its token and its version. -/
theorem Session.headers_congr {s t : Session} (ht : s.token = t.token) (hv : s.version = t.version)
    (defaults : Option Headers) : s.headers defaults = t.headers defaults := by
  unfold Session.headers
  rw [ht, hv]

namespace Wire

variable {w : Wire} {s : Session} {request : Request}

theorem headers_of_resourceRequest {order : Order} (h : w.resourceRequest s order = .ok request) :
    s.headers w.defaultHeaders = .ok request.headers := by
  obtain ⟨url, headers, -, hh, rfl⟩ := resourceRequest_ok h
  exact hh

theorem headers_of_versionRequest {timeout : Option Binary64}
    (h : w.versionRequest s timeout = .ok request) :
    s.headers w.defaultHeaders = .ok request.headers := by
  obtain ⟨headers, url, hh, -, rfl⟩ := versionRequest_ok h
  exact hh

end Wire

end StorageGateway
