import StorageGateway.Proofs.Secrecy.Alike
import StorageGateway.Proofs.Url.Resolvable

/-! Faults that are failures of the library's own. What a session is made of decides whether its
requests can fail otherwise, and what a reply holds whether reading it can: a word is read in the
character set that the gateway declares, a token is shown and a version read in later requests. -/
namespace StorageGateway

/-- A failure that this library reports itself, whatever it was raised from. -/
def Fault.IsOwn (fault : Fault) : Prop := fault.failure?.isSome = true

/-- An end with a value or with a failure of the library's own. -/
def EndsOwn {α : Type} (result : Except Fault α) : Prop :=
  ∀ fault, result = .error fault → fault.IsOwn

namespace EndsOwn

variable {α β : Type}

theorem ok (a : α) : EndsOwn (.ok a) := nofun

theorem error {fault : Fault} (h : fault.IsOwn) : EndsOwn (.error fault : Except Fault α) := by
  intro e he
  cases he
  exact h

theorem bind {x : Except Fault α} {next : α → Except Fault β} (h : EndsOwn x)
    (hn : ∀ a, x = .ok a → EndsOwn (next a)) : EndsOwn (x >>= next) := by
  cases x with
  | ok a => exact hn a rfl
  | error fault => exact .error (h fault rfl)

theorem map {x : Except Fault α} (h : EndsOwn x) (f : α → β) : EndsOwn (x.map f) := by
  cases x with
  | ok a => exact .ok (f a)
  | error fault => exact .error (h fault rfl)

/-- A fault that is wrapped, if it is one of the library's own, is one still. -/
theorem mapError {x : Except Fault α} (h : EndsOwn x) {f : Fault → Fault}
    (hf : ∀ fault, fault.IsOwn → (f fault).IsOwn) : EndsOwn (x.mapError f) := by
  cases x with
  | ok a => exact .ok a
  | error fault => exact .error (hf fault (h fault rfl))

end EndsOwn

namespace Version

/-- The numbers in front of a text, if there are any, have the length that is accepted. -/
def HasShortNumbers (t : Text) : Prop :=
  (takeDigits t.trimStart).1.length ≤ Json.mostDigits ∧
    (minorDigits (takeDigits t.trimStart).2).length ≤ Json.mostDigits

instance (t : Text) : Decidable (HasShortNumbers t) :=
  inferInstanceAs (Decidable (_ ∧ _))

theorem readNumber_of_short {digits : Text} (h : digits.length ≤ Json.mostDigits) :
    readNumber digits = .ok digits.digitsValue :=
  if_neg (Nat.not_lt.mpr h)

theorem parse_endsOwn {version : Option Text} (h : ∀ v, version = some v → HasShortNumbers v) :
    EndsOwn (parse version) := by
  unfold parse
  split
  · exact .ok _
  · exact .ok _
  · rename_i t _
    obtain ⟨hmajor, hminor⟩ := h t rfl
    dsimp only
    split
    · exact .error rfl
    · rw [readNumber_of_short hmajor, readNumber_of_short hminor]
      exact .ok _

end Version

namespace Authorization

theorem exists_basic {username password : Text} (hu : username.FitsBytes)
    (hp : password.FitsBytes) : ∃ value, basic username password = .ok value := by
  obtain ⟨user, hu⟩ := exists_ofLatin1 hu
  obtain ⟨pass, hp⟩ := exists_ofLatin1 hp
  unfold basic encodeField
  rw [hu, hp]
  exact ⟨_, rfl⟩

theorem exists_presented (capabilities : Capabilities) {token : Text} (h : token.FitsBytes) :
    ∃ value, presented capabilities token = .ok value := by
  unfold presented
  split
  · exact ⟨_, rfl⟩
  · exact exists_basic (by decide) h

end Authorization

/-- Credentials that can be shown. -/
def Credentials.FitBytes (c : Credentials) : Prop := c.username.FitsBytes ∧ c.password.FitsBytes

instance (c : Credentials) : Decidable c.FitBytes := inferInstanceAs (Decidable (_ ∧ _))

theorem Login.versionPath_plain : Url.IsPlain Login.versionPath := by decide +kernel

theorem Login.loginPath_plain : Url.IsPlain Login.loginPath := by decide +kernel

/-- A session all of whose parts can be put into requests, but for a version that makes no sense. -/
structure Session.Presentable (s : Session) : Prop where
  endpoint : Endpoint.IsWeb s.endpoint
  version : ∀ v, s.version = some v → Version.HasShortNumbers v
  token : s.token.FitsBytes
  credentials : ∀ c, s.credentials = some c → c.FitBytes

namespace Session.Presentable

variable {s : Session}

theorem restarted (h : s.Presentable) : s.restarted.Presentable where
  endpoint := h.endpoint
  version := h.version
  token := rfl
  credentials := h.credentials

theorem withToken (h : s.Presentable) {token : Text} (ht : token.FitsBytes) :
    (s.withToken token).Presentable where
  endpoint := h.endpoint
  version := h.version
  token := ht
  credentials := h.credentials

theorem established (h : s.Presentable) {token : Text} (ht : token.FitsBytes) {c : Credentials}
    (hc : c.FitBytes) : (s.established token c).Presentable where
  endpoint := h.endpoint
  version := h.version
  token := ht
  credentials d hd := by
    cases hd
    exact hc

theorem withVersion (h : s.Presentable) {version : Text} (hv : Version.HasShortNumbers version) :
    (s.withVersion (some version)).Presentable where
  endpoint := h.endpoint
  version v he := by
    have hf : (some version).filter (· ≠ []) = some v := he
    obtain ⟨he, -⟩ := Option.filter_eq_some_iff.mp hf
    cases he
    exact hv
  token := h.token
  credentials := h.credentials

theorem exists_resolve (h : s.Presentable) {path : Text} (hp : Url.IsPlain path) :
    ∃ url, s.resolve path = .ok url := by
  obtain ⟨url, hu⟩ := Endpoint.exists_resolve h.endpoint hp
  unfold Session.resolve
  rw [hu]
  exact ⟨url, rfl⟩

theorem headers_endsOwn (h : s.Presentable) (defaults : Option Headers) :
    EndsOwn (s.headers defaults) := by
  cases hv : Version.parse s.version with
  | error fault =>
    rw [headers_of_error hv]
    exact .error (Version.parse_endsOwn h.version fault hv)
  | ok v =>
    rw [headers_of_parse hv]
    by_cases ht : s.token = []
    · rw [ht]
      exact .ok _
    · obtain ⟨value, hp⟩ := Authorization.exists_presented (Capabilities.ofVersion? v) h.token
      rw [Authorization.ofToken_eq ht hv, hp]
      exact .ok _

theorem resourceRequest_endsOwn (h : s.Presentable) (w : Wire) {order : Order}
    (hp : Url.IsPlain order.path) : EndsOwn (w.resourceRequest s order) := by
  obtain ⟨url, hu⟩ := h.exists_resolve hp
  unfold Wire.resourceRequest
  rw [hu]
  exact (h.headers_endsOwn w.defaultHeaders).bind fun headers _ => .ok _

theorem versionRequest_endsOwn (h : s.Presentable) (w : Wire) (timeout : Option Binary64) :
    EndsOwn (w.versionRequest s timeout) := by
  obtain ⟨url, hu⟩ := h.exists_resolve Login.versionPath_plain
  unfold Wire.versionRequest
  rw [hu]
  exact (h.headers_endsOwn w.defaultHeaders).bind fun headers _ => .ok _

/-- A login can always be sent, also in a session whose version makes no sense. -/
theorem exists_loginRequest (h : s.Presentable) (w : Wire) {c : Credentials} (hc : c.FitBytes)
    (timeout : Option Binary64) : ∃ request, w.loginRequest s c timeout = .ok request := by
  obtain ⟨url, hu⟩ := h.exists_resolve Login.loginPath_plain
  obtain ⟨value, hv⟩ := Authorization.exists_basic hc.1 hc.2
  unfold Wire.loginRequest
  rw [Authorization.ofCredentials_eq, hv, hu]
  exact ⟨_, rfl⟩

end Session.Presentable

/-- How the reply to a request is made use of when it tells of success. -/
inductive Reading where
  | json
  | word
  /-- A word that is shown in later requests. -/
  | token
  /-- A word that is kept as the version. -/
  | version

namespace Reply

/-- Whether the body has a text, by the codec of the character set that the gateway declared. -/
def hasText (codecs : Bytes.Codecs) (r : Reply) : Bool :=
  (r.decodedText codecs r.body).toOption.isSome

/-- Whether a reply holds what can be read, and be used in later requests. -/
def suits (codecs : Bytes.Codecs) (r : Reply) : Reading → Bool
  | .json => true
  | .word => r.hasText codecs
  | .token => r.hasText codecs &&
      (r.scalar codecs).toOption.all fun token => decide token.FitsBytes
  | .version => r.hasText codecs && (r.scalar codecs).toOption.all fun raw =>
      decide (Version.HasShortNumbers (Version.extract raw))

variable {α : Type} {codecs : Bytes.Codecs} {r : Reply}

/-- A sound reply with a status has a body, or an own failure in place of one. -/
theorem content_endsOwn (hs : r.IsSound) (h0 : r.status ≠ 0) :
    EndsOwn r.content ∧ r.content ≠ .ok none := by
  unfold IsSound at hs
  unfold content
  rw [if_neg h0]
  split
  · exact ⟨.ok _, nofun⟩
  · rename_i hb
    exact absurd hb hs
  · exact ⟨.error rfl, nofun⟩

theorem decodedText_endsOwn (h : r.hasText codecs = true) {body : Bytes} (hb : body = r.body) :
    EndsOwn (r.decodedText codecs body) := by
  subst hb
  unfold hasText at h
  cases hd : r.decodedText codecs r.body with
  | ok t => exact .ok t
  | error fault =>
    rw [hd] at h
    cases h

theorem content_eq_body {body : Bytes} (h : r.content = .ok (some body)) : body = r.body := by
  unfold content at h
  split at h
  · cases h
  · split at h
    · cases h
      rfl
    · cases h
    · cases h

theorem scalar_endsOwn (hs : r.IsSound) (h0 : r.status ≠ 0) (ht : r.hasText codecs = true) :
    EndsOwn (r.scalar codecs) := by
  obtain ⟨hown, hsome⟩ := content_endsOwn hs h0
  refine hown.bind fun body hb => ?_
  cases body with
  | none => exact absurd hb hsome
  | some body => exact (decodedText_endsOwn ht (content_eq_body hb)).map unquoted

theorem json_endsOwn (hs : r.IsSound) (h0 : r.status ≠ 0) : EndsOwn r.json := by
  obtain ⟨hown, hsome⟩ := content_endsOwn hs h0
  refine hown.bind fun body hb => ?_
  cases body with
  | none => exact absurd hb hsome
  | some body =>
    change EndsOwn (if Bytes.isBlank body then .ok .null else (Json.readBytes body).mapError _)
    split
    · exact .ok _
    · cases Json.readBytes body with
      | ok v => exact .ok v
      | error e => exact .error rfl

theorem rejected_endsOwn (hs : r.IsSound) (h0 : r.status ≠ 0)
    {next : Failure → Except Fault α} (hn : ∀ f, EndsOwn (next f)) :
    EndsOwn (r.rejection.bind next) := by
  obtain ⟨f, hf⟩ := exists_rejection hs h0
  rw [hf]
  exact hn f

theorem verdict_endsOwn (hs : r.IsSound) (h0 : r.status ≠ 0) {reading : Reply → Except Fault α}
    (h : isSuccess r.status = true → EndsOwn (reading r)) : EndsOwn (verdict reading r) := by
  unfold verdict
  split
  · rename_i hsuccess
    exact h hsuccess
  · exact rejected_endsOwn hs h0 fun f => .error rfl

theorem token_endsOwn (hs : r.IsSound) (h0 : r.status ≠ 0)
    (h : isSuccess r.status = true → r.hasText codecs = true) : EndsOwn (r.token codecs) := by
  unfold token
  split
  · rename_i hsuccess
    refine (scalar_endsOwn hs h0 (h hsuccess)).bind fun token _ => ?_
    split
    · exact .error rfl
    · exact .ok _
  · refine rejected_endsOwn hs h0 fun f => ?_
    split
    · exact .error rfl
    · exact .error rfl

/-- A reading that ends with a value or an own failure on every reply that suits it. -/
def Reads (codecs : Bytes.Codecs) (q : Reading) (reading : Reply → Except Fault α) : Prop :=
  ∀ r : Reply, r.IsSound → r.status ≠ 0 → r.suits codecs q = true → EndsOwn (reading r)

theorem reads_json : Reads codecs .json json := fun _ hs h0 _ => json_endsOwn hs h0

theorem reads_word : Reads codecs .word (scalar codecs) := fun _ hs h0 h =>
  scalar_endsOwn hs h0 h

theorem reads_version : Reads codecs .version (scalar codecs) := fun _ hs h0 h =>
  scalar_endsOwn hs h0 (Bool.and_eq_true_iff.mp h).1

end Reply

/-- An answer of a connection that raises nothing but its own errors: a sound reply with a status,
or none. -/
def Answer.IsServed : Answer → Prop
  | .reply r => r.IsSound ∧ r.status ≠ 0
  | .unreachable _ _ => True
  | .crash _ _ => False

instance (r : Reply) : Decidable r.IsSound := inferInstanceAs (Decidable (r.broken ≠ some .value))

instance (a : Answer) : Decidable a.IsServed :=
  match a with
  | .reply r => inferInstanceAs (Decidable (r.IsSound ∧ r.status ≠ 0))
  | .unreachable _ _ => .isTrue trivial
  | .crash _ _ => .isFalse id

namespace Answer

variable {α : Type} {a : Option Answer}

/-- What such answers come to, by a verdict on the replies. -/
theorem settle_endsOwn {verdict : Reply → Except Fault α} (ha : ∀ x, a = some x → x.IsServed)
    (hv : ∀ r : Reply, a = some (.reply r) → r.IsSound → r.status ≠ 0 → EndsOwn (verdict r)) :
    EndsOwn (settle verdict a) := by
  cases a with
  | none => exact .error rfl
  | some x =>
    have hx := ha x rfl
    cases x with
    | unreachable why text => exact .error rfl
    | crash why text => cases hx
    | reply r => exact hv r rfl hx.1 hx.2

/-- A value was read off a reply that told of success. -/
theorem reply_of_settle_verdict {reading : Reply → Except Fault α} {x : α}
    (h : settle (Reply.verdict reading) a = .ok x) :
    ∃ r : Reply, a = some (.reply r) ∧ isSuccess r.status = true ∧ reading r = .ok x := by
  match a with
  | none => cases h
  | some (.unreachable why text) => cases h
  | some (.crash why text) => cases h
  | some (.reply r) =>
    change Reply.verdict reading r = .ok x at h
    unfold Reply.verdict at h
    split at h
    · rename_i hs
      exact ⟨r, rfl, hs, h⟩
    · obtain ⟨f, -, hn⟩ := ok_of_bind h
      cases hn

theorem reply_of_settle_token {codecs : Bytes.Codecs} {token : Text}
    (h : settle (Reply.token codecs) a = .ok token) :
    ∃ r : Reply, a = some (.reply r) ∧ isSuccess r.status = true ∧ r.scalar codecs = .ok token := by
  match a with
  | none => cases h
  | some (.unreachable why text) => cases h
  | some (.crash why text) => cases h
  | some (.reply r) =>
    change r.token codecs = .ok token at h
    unfold Reply.token at h
    split at h
    · rename_i hs
      obtain ⟨word, hw, hn⟩ := ok_of_bind h
      split at hn
      · cases hn
      · cases hn
        exact ⟨r, rfl, hs, hw⟩
    · obtain ⟨f, -, hn⟩ := ok_of_bind h
      split at hn
      · cases hn
      · cases hn

end Answer

end StorageGateway
