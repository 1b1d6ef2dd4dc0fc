import StorageGateway.Client.Basic
import StorageGateway.Proofs.Replies
import StorageGateway.Proofs.Secrecy.Masking

/-! When sessions, answers and operations cannot be told apart but by their secrets, and what this
means for the requests that are made from them: they differ in the value of one header. -/
namespace StorageGateway

/-- A text each code point of which is a byte, so that old gateways can be shown it. -/
def Text.FitsBytes (t : Text) : Prop := t.all Bytes.fitsByte = true

instance (t : Text) : Decidable t.FitsBytes :=
  inferInstanceAs (Decidable (t.all Bytes.fitsByte = true))

/-- Tokens that cannot be told apart: there is one or there is none, and it can be shown. -/
def TokensAlike (a b : Text) : Prop := a = b ∨ a.FitsBytes ∧ b.FitsBytes ∧ (a = [] ↔ b = [])

/-- Credentials of one user with passwords that can be shown. -/
structure Credentials.Alike (c d : Credentials) : Prop where
  username : c.username = d.username
  password : c.password = d.password ∨ c.password.FitsBytes ∧ d.password.FitsBytes

/-- Sessions that differ in secrets alone. -/
structure Session.Alike (s t : Session) : Prop where
  endpoint : s.endpoint = t.endpoint
  version : s.version = t.version
  token : TokensAlike s.token t.token
  credentials : Option.Rel Credentials.Alike s.credentials t.credentials

/-- Values alike, or the same fault. -/
def ResultsAlike {α β : Type} (R : α → β → Prop) : Except Fault α → Except Fault β → Prop
  | .ok a, .ok b => R a b
  | .error e, .error f => e = f
  | _, _ => False

theorem TokensAlike.refl (t : Text) : TokensAlike t t := .inl rfl

theorem Credentials.Alike.refl (c : Credentials) : c.Alike c := ⟨rfl, .inl rfl⟩

theorem Session.Alike.refl (s : Session) : s.Alike s where
  endpoint := rfl
  version := rfl
  token := .refl s.token
  credentials := by
    cases s.credentials with
    | none => exact .none
    | some c => exact .some (.refl c)

namespace ResultsAlike

variable {α β : Type} {R : α → β → Prop} {x : Except Fault α} {y : Except Fault β}

theorem of_ok (h : ResultsAlike R x y) {a : α} (hx : x = .ok a) : ∃ b, y = .ok b ∧ R a b := by
  subst hx
  cases y with
  | ok b => exact ⟨b, rfl, h⟩
  | error f => cases h

theorem of_error (h : ResultsAlike R x y) {e : Fault} (hx : x = .error e) : y = .error e := by
  subst hx
  cases y with
  | ok b => cases h
  | error f => exact congrArg _ (Eq.symm h)

theorem of_oks {a : α} {b : β} (hx : x = .ok a) (hy : y = .ok b) (h : R a b) :
    ResultsAlike R x y := by
  rw [hx, hy]
  exact h

theorem of_errors {e : Fault} (hx : x = .error e) (hy : y = .error e) : ResultsAlike R x y := by
  rw [hx, hy]
  rfl

theorem mono {S : α → β → Prop} (h : ResultsAlike R x y) (hs : ∀ a b, R a b → S a b) :
    ResultsAlike S x y := by
  cases hx : x with
  | ok a =>
    obtain ⟨b, hy, hr⟩ := h.of_ok hx
    exact of_oks rfl hy (hs a b hr)
  | error e => exact of_errors rfl (h.of_error hx)

end ResultsAlike

theorem ResultsAlike.of_map_eq {α β : Type} {f : α → β} {x y : Except Fault α}
    (h : x.map f = y.map f) : ResultsAlike (fun a b => f a = f b) x y := by
  cases x with
  | ok a =>
    cases y with
    | ok b => exact Except.ok.inj h
    | error e => cases h
  | error e =>
    cases y with
    | ok b => cases h
    | error f => exact Except.error.inj h

theorem ResultsAlike.of_eq {α : Type} {x y : Except Fault α} (h : x = y) :
    ResultsAlike Eq x y := by
  subst h
  cases x <;> rfl

namespace Authorization

theorem exists_ofLatin1 {t : Text} (h : t.FitsBytes) : ∃ bs, Bytes.ofLatin1 t = .ok bs := by
  have h : t.all Bytes.fitsByte = true := h
  unfold Bytes.ofLatin1
  rw [if_pos h]
  exact ⟨_, rfl⟩

/-- Two passwords that can be shown are either both shown or neither, for the user's sake. -/
theorem basic_alike (username : Text) {a b : Text} (h : a = b ∨ a.FitsBytes ∧ b.FitsBytes) :
    ResultsAlike (fun _ _ => True) (basic username a) (basic username b) := by
  obtain rfl | ⟨ha, hb⟩ := h
  · cases basic username a with
    | ok value => trivial
    | error e => rfl
  · obtain ⟨as, ha⟩ := exists_ofLatin1 ha
    obtain ⟨bs, hb⟩ := exists_ofLatin1 hb
    unfold basic encodeField
    cases Bytes.ofLatin1 username with
    | error e => rfl
    | ok user =>
      rw [ha, hb]
      trivial

theorem presented_alike (capabilities : Capabilities) {a b : Text}
    (h : a.FitsBytes ∧ b.FitsBytes) :
    ResultsAlike (fun _ _ => True) (presented capabilities a) (presented capabilities b) := by
  unfold presented
  split
  · trivial
  · exact basic_alike [] (.inr h)

/-- Whatever value is set, the headers are the same without it. -/
theorem map_put_masked {x y : Except Fault Text} (h : ResultsAlike (fun _ _ => True) x y)
    (headers : Headers) :
    (x.map fun value => headers.put Headers.authorization value).map Headers.masked =
      (y.map fun value => headers.put Headers.authorization value).map Headers.masked := by
  cases x with
  | ok a =>
    cases y with
    | ok b => simp [Except.map, Headers.masked_put_authorization]
    | error e => cases h
  | error e =>
    cases y with
    | ok b => cases h
    | error f =>
      have he : e = f := h
      rw [he]

end Authorization

namespace Session.Alike

variable {s t : Session}

theorem isVersionKnown_eq (h : s.Alike t) : s.isVersionKnown = t.isVersionKnown := by
  unfold isVersionKnown
  rw [h.version]

theorem resolve_eq (h : s.Alike t) (path : Text) : s.resolve path = t.resolve path := by
  unfold resolve
  rw [h.endpoint]

theorem headers_masked (h : s.Alike t) (defaults : Option Headers) :
    (s.headers defaults).map Headers.masked = (t.headers defaults).map Headers.masked := by
  cases hv : Version.parse s.version with
  | error e =>
    rw [headers_of_error hv, headers_of_error (h.version ▸ hv)]
  | ok v =>
    have hv' := hv
    rw [h.version] at hv'
    rw [headers_of_parse hv, headers_of_parse hv', h.version]
    obtain he | ⟨ha, hb, hn⟩ := h.token
    · rw [he]
    · by_cases hs : s.token = []
      · rw [hs, hn.mp hs]
      · have ht : t.token ≠ [] := mt hn.mpr hs
        rw [Authorization.ofToken_eq hs hv', Authorization.ofToken_eq ht hv']
        exact Authorization.map_put_masked (Authorization.presented_alike _ ⟨ha, hb⟩) _

end Session.Alike

namespace Wire

variable {s t : Session}

theorem request_masked (w : Wire) (method url : Text) {a b : Headers}
    (h : a.masked = b.masked) (params : Option (Fields Text)) (body : Option Bytes)
    (timeout : Option Binary64) :
    (w.request method url a params body timeout).masked =
      (w.request method url b params body timeout).masked := by
  simp only [request, Request.masked, h]

theorem bind_masked {x y : Except Fault Headers} (h : x.map Headers.masked = y.map Headers.masked)
    {f g : Headers → Except Fault Request} (hf : ∀ a b : Headers, a.masked = b.masked →
      (f a).map Request.masked = (g b).map Request.masked) :
    (x >>= f).map Request.masked = (y >>= g).map Request.masked := by
  cases x with
  | ok a =>
    cases y with
    | ok b => exact hf a b (Except.ok.inj h)
    | error e => cases h
  | error e =>
    cases y with
    | ok b => cases h
    | error f => cases h; rfl

theorem resourceRequest_masked (w : Wire) (h : s.Alike t) (order : Order) :
    (w.resourceRequest s order).map Request.masked =
      (w.resourceRequest t order).map Request.masked := by
  unfold resourceRequest
  rw [h.resolve_eq]
  cases t.resolve order.path with
  | error e => rfl
  | ok url =>
    exact bind_masked (h.headers_masked w.defaultHeaders) fun a b hab =>
      congrArg Except.ok (w.request_masked _ _ hab _ _ _)

theorem versionRequest_masked (w : Wire) (h : s.Alike t) (timeout : Option Binary64) :
    (w.versionRequest s timeout).map Request.masked =
      (w.versionRequest t timeout).map Request.masked := by
  unfold versionRequest
  rw [h.resolve_eq]
  refine bind_masked (h.headers_masked w.defaultHeaders) fun a b hab => ?_
  cases t.resolve Login.versionPath with
  | error e => rfl
  | ok url => exact congrArg Except.ok (w.request_masked _ _ hab _ _ _)

/-- The requests that log in with credentials of one user. -/
theorem loginRequest_masked (w : Wire) (h : s.Alike t) {c d : Credentials} (hc : c.Alike d)
    (timeout : Option Binary64) :
    (w.loginRequest s c timeout).map Request.masked =
      (w.loginRequest t d timeout).map Request.masked := by
  unfold loginRequest
  rw [h.resolve_eq, h.version, Authorization.ofCredentials_eq, Authorization.ofCredentials_eq,
    hc.username]
  refine bind_masked (Authorization.map_put_masked
    (Authorization.basic_alike d.username hc.password) _) fun a b hab => ?_
  cases t.resolve Login.loginPath with
  | error e => rfl
  | ok url => exact congrArg Except.ok (w.request_masked _ _ hab _ _ _)

end Wire

/-- Replies to logins that are won with tokens that cannot be told apart; `fit` says what tokens may
be. The replies themselves differ in their bodies. -/
structure Reply.LoginsAlike (codecs : Bytes.Codecs) (fit : Text → Prop) (r q : Reply) : Prop where
  same : r.masked = q.masked
  success : isSuccess r.status = true
  tokens : ∃ a b, r.scalar codecs = .ok a ∧ q.scalar codecs = .ok b ∧ a ≠ [] ∧ b ≠ [] ∧
    fit a ∧ fit b

/-- Answers to requests of one purpose. -/
def AnswersAlike (codecs : Bytes.Codecs) (fit : Text → Prop) (p : Purpose)
    (a b : Option Answer) : Prop :=
  a = b ∨ p = .login ∧
    ∃ r q : Reply, a = some (.reply r) ∧ b = some (.reply q) ∧ r.LoginsAlike codecs fit q

/-- Scripts whose answers cannot be told apart as far as they are taken, for requests of certain
purposes. -/
def ScriptsAlike (codecs : Bytes.Codecs) (fit : Text → Prop) :
    List Purpose → List Answer → List Answer → Prop
  | [], _, _ => True
  | p :: purposes, a, b =>
    AnswersAlike codecs fit p a.head? b.head? ∧ ScriptsAlike codecs fit purposes a.tail b.tail

theorem scriptsAlike_append {codecs : Bytes.Codecs} {fit : Text → Prop} (p q : List Purpose)
    (a b : List Answer) :
    ScriptsAlike codecs fit (p ++ q) a b ↔
      ScriptsAlike codecs fit p a b ∧
        ScriptsAlike codecs fit q (a.drop p.length) (b.drop p.length) := by
  induction p generalizing a b with
  | nil => simp [ScriptsAlike]
  | cons x p ih =>
    rw [List.cons_append, ScriptsAlike, ScriptsAlike, ih, and_assoc]
    simp

/-- Operations that differ in the secrets that they bring. -/
inductive Operation.Alike : Operation → Operation → Prop
  | authenticate {c d : Credentials} (h : c.Alike d) (timeout : Option Binary64) :
    Operation.Alike (.authenticate c timeout) (.authenticate d timeout)
  | setToken {a b : Text} (h : TokensAlike a b) : Operation.Alike (.setToken a) (.setToken b)
  | useSession {s t : Session} (h : s.Alike t) : Operation.Alike (.useSession s) (.useSession t)
  | same (op : Operation) : Operation.Alike op op

end StorageGateway
