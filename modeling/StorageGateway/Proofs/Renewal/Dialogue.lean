import StorageGateway.Proofs.Desks
import StorageGateway.Proofs.Replies

/-! The exchanges of one call. Each of the five that there can be takes place exactly when it is due
and its request can be made from the session of that moment, which the exchanges before it decide.
-/
namespace StorageGateway

namespace Exchange

/-- The exchange that follows when a request could be made. -/
def upon (p : Purpose) (built : Except Fault Request) (script : List Answer) : Option Exchange :=
  built.toOption.map fun request => ⟨p, request, script.head?⟩

theorem upon_of_ok (p : Purpose) {built : Except Fault Request} {request : Request}
    (h : built = .ok request) (script : List Answer) :
    upon p built script = some ⟨p, request, script.head?⟩ := by
  rw [h]
  rfl

theorem upon_of_error (p : Purpose) {built : Except Fault Request} {fault : Fault}
    (h : built = .error fault) (script : List Answer) : upon p built script = none := by
  rw [h]
  rfl

theorem mem_upon {p : Purpose} {built : Except Fault Request} {script : List Answer}
    {e : Exchange} :
    e ∈ upon p built script ↔
      e.purpose = p ∧ e.answer = script.head? ∧ built = .ok e.request := by
  obtain ⟨q, request, answer⟩ := e
  cases built with
  | error fault => simp [upon, Except.toOption]
  | ok made => simp [upon, Except.toOption, eq_comm, and_comm]

theorem upon_eq_none {p : Purpose} {built : Except Fault Request} {script : List Answer} :
    upon p built script = none ↔ ∃ fault, built = .error fault := by
  cases built <;> simp [upon, Except.toOption]

/-- An exchange takes place exactly when it is due and its request can be made. -/
def Happens (p : Purpose) (due : Prop) (built : Except Fault Request) : Option Exchange → Prop
  | some e => due ∧ e.purpose = p ∧ built = .ok e.request
  | none => due → ∃ fault, built = .error fault

theorem happens_upon (p : Purpose) {due : Prop} (h : due) (built : Except Fault Request)
    (script : List Answer) : Happens p due built (upon p built script) := by
  cases built with
  | ok request => exact ⟨h, rfl, rfl⟩
  | error fault => exact fun _ => ⟨fault, rfl⟩

theorem happens_none {p : Purpose} {due : Prop} (h : ¬due) (built : Except Fault Request) :
    Happens p due built none := fun hd => absurd hd h

theorem Happens.purpose_eq {p : Purpose} {due : Prop} {built : Except Fault Request}
    {o : Option Exchange} (h : Happens p due built o) {e : Exchange} (he : e ∈ o.toList) :
    e.purpose = p := by
  obtain rfl := Option.mem_toList.mp he
  exact h.2.1

theorem Happens.not_of_not_due {p : Purpose} {due : Prop} {built : Except Fault Request}
    {e : Option Exchange} (h : Happens p due built e) (hd : ¬due) : e = none := by
  cases e with
  | none => rfl
  | some e => exact absurd h.1 hd

theorem Happens.congr {p : Purpose} {due due' : Prop} {built : Except Fault Request}
    {e : Option Exchange} (h : Happens p due built e) (hd : due ↔ due') :
    Happens p due' built e := by
  rwa [← propext hd]

end Exchange

open Exchange

namespace Session

/-- The session after an exchange in which a version may have been told. -/
def told (codecs : Bytes.Codecs) (s : Session) (e : Option Exchange) : Session :=
  match e.bind (word? codecs) with
  | some raw => s.withVersion (some (Version.extract raw))
  | none => s

/-- The session after an exchange in which a token may have been won with its credentials. -/
def renewed (codecs : Bytes.Codecs) (s : Session) (e : Option Exchange) : Session :=
  match e.bind (token? codecs) with
  | some token => s.withToken token
  | none => s

variable (codecs : Bytes.Codecs)

@[simp] theorem told_none (s : Session) : s.told codecs none = s := rfl

@[simp] theorem told_endpoint (s : Session) (e : Option Exchange) :
    (s.told codecs e).endpoint = s.endpoint := by
  unfold told
  split <;> rfl

@[simp] theorem told_token (s : Session) (e : Option Exchange) :
    (s.told codecs e).token = s.token := by
  unfold told
  split <;> rfl

@[simp] theorem told_credentials (s : Session) (e : Option Exchange) :
    (s.told codecs e).credentials = s.credentials := by
  unfold told
  split <;> rfl

/-- A login with the credentials that a session holds leaves it as it was but for the token. -/
theorem established_eq_renewed {s : Session} {c : Credentials} (hc : s.credentials = some c)
    {e : Option Exchange} {token : Text} (ht : e.bind (token? codecs) = some token) :
    s.restarted.established token c = s.renewed codecs e := by
  simp [renewed, ht, established, restarted, withToken, hc]

end Session

/-- The exchanges that there can be in one call, in their order. -/
structure Dialogue where
  leading : Option Exchange := none
  first : Option Exchange := none
  login : Option Exchange := none
  inner : Option Exchange := none
  replay : Option Exchange := none

namespace Dialogue

def word (d : Dialogue) : List Exchange :=
  d.leading.toList ++ d.first.toList ++ d.login.toList ++ d.inner.toList ++ d.replay.toList

/-- When a resource is requested in a session, when the session is renewed for it, and when the
request is sent again. -/
structure Renews (d : Dialogue) (w : Wire) (order : Order) (due : Prop) (s : Session) : Prop where
  first : Happens .resource due (w.resourceRequest s order) d.first
  login : ∀ c, s.credentials = some c →
    Happens .login (d.first.bind status? = some unauthorizedStatus)
      (w.loginRequest s c order.timeout) d.login
  login_of_none : s.credentials = none → d.login = none
  inner : Happens .version ((d.login.bind (token? w.codecs)).isSome ∧ s.isVersionKnown = false)
    (w.versionRequest (s.renewed w.codecs d.login) order.timeout) d.inner
  replay : Happens .resource
    ((d.login.bind (token? w.codecs)).isSome ∧
      (s.isVersionKnown = true ∨ (d.inner.bind (word? w.codecs)).isSome))
    (w.resourceRequest ((s.renewed w.codecs d.login).told w.codecs d.inner) order) d.replay

/-- The version comes first if it is not known, and then the resource with its renewal. -/
structure Follows (d : Dialogue) (w : Wire) (order : Order) (s : Session) : Prop where
  leading : Happens .version (s.isVersionKnown = false) (w.versionRequest s order.timeout) d.leading
  renews : d.Renews w order (s.isVersionKnown = true ∨ (d.leading.bind (word? w.codecs)).isSome)
    (s.told w.codecs d.leading)

/-- What comes before the resource has no part in its renewal. -/
theorem Renews.withLeading {d : Dialogue} {w : Wire} {order : Order} {due : Prop} {s : Session}
    (h : d.Renews w order due s) (leading : Option Exchange) :
    ({ d with leading } : Dialogue).Renews w order due s :=
  ⟨h.first, h.login, h.login_of_none, h.inner, h.replay⟩

/-- Nothing happens for a resource that is not due. -/
theorem renews_of_not_due {w : Wire} {order : Order} {due : Prop} (h : ¬due) (s : Session)
    (leading : Option Exchange) : ({ leading } : Dialogue).Renews w order due s where
  first := happens_none h _
  login _ _ := happens_none (by simp) _
  login_of_none _ := rfl
  inner := happens_none (by simp) _
  replay := happens_none (by simp) _

end Dialogue

namespace Trace

/-- The script left by a call that takes one answer for each request. -/
theorem script_after {α : Type} {call : Call α} (h : Call.Paced call) (s : Standing) :
    (call s).standing.script = s.script.drop (exchanges s.script (call s).events).length := by
  rw [h s, ← map_purpose_exchanges s.script, List.length_map]

/-- The exchanges of two pieces of work, the second on the script that the first has left. -/
theorem exchanges_append_of_paced {α : Type} {call : Call α} (h : Call.Paced call) (s : Standing)
    (later : List Event) :
    exchanges s.script ((call s).events ++ later) =
      exchanges s.script (call s).events ++ exchanges (call s).standing.script later := by
  rw [exchanges_append, h s]

end Trace

namespace Login

variable (w : Wire) (c : Credentials) (timeout : Option Binary64) (s : Standing)

/-- Asking for the version is one exchange, if the request can be made; the version told is kept. -/
theorem askVersion_upon :
    let e := upon .version (w.versionRequest s.desk.current timeout) s.script
    Trace.exchanges s.script (askVersion w timeout s).events = e.toList ∧
      (askVersion w timeout s).standing.desk.current = s.desk.current.told w.codecs e ∧
      (askVersion w timeout s).result.toOption = (e.bind (word? w.codecs)).map Version.extract := by
  intro e
  cases hb : w.versionRequest s.desk.current timeout with
  | error fault =>
    have he : e = none := upon_of_error .version hb s.script
    rw [askVersion_unsent hb, he]
    simp [Except.toOption]
  | ok request =>
    have he : e = some ⟨.version, request, s.script.head?⟩ := upon_of_ok .version hb s.script
    have hw := word?_eq w.codecs ⟨.version, request, s.script.head?⟩
    rw [he]
    cases ha : Answer.settle (Reply.verdict (Reply.scalar w.codecs)) s.script.head? with
    | ok raw =>
      rw [askVersion_told hb ha]
      simp [Trace.exchanges_append, Session.told, hw, ha,
        Except.toOption, Desk.setVersion]
    | error fault =>
      rw [askVersion_failed hb ha]
      simp [Session.told, hw, ha, Except.toOption]

/-- A login is one exchange, if the request can be made. The session starts anew for it, and takes
the token and the credentials if the login is won. -/
theorem exchange_upon :
    let e := upon .login (w.loginRequest s.desk.current c timeout) s.script
    Trace.exchanges s.script (exchange w c timeout s).events = e.toList ∧
      (exchange w c timeout s).result.toOption = e.bind (token? w.codecs) ∧
      ∀ token, e.bind (token? w.codecs) = some token →
        (exchange w c timeout s).standing.desk.current =
          s.desk.current.restarted.established token c := by
  intro e
  cases hb : w.loginRequest s.desk.current c timeout with
  | error fault =>
    have he : e = none := upon_of_error .login hb s.script
    rw [exchange_unsent hb, he]
    simp [Except.toOption]
  | ok request =>
    have he : e = some ⟨.login, request, s.script.head?⟩ := upon_of_ok .login hb s.script
    have ht := token?_eq w.codecs ⟨.login, request, s.script.head?⟩
    rw [he]
    cases ha : Answer.settle (Reply.token w.codecs) s.script.head? with
    | ok token =>
      rw [ha] at ht
      rw [exchange_won hb ha]
      simp [Trace.exchanges_append, ht, Except.toOption, Desk.start, Desk.establish]
    | error fault =>
      rw [ha] at ht
      rw [exchange_failed hb ha]
      simp [ht, Except.toOption]

/-- A login attempt: the login, and the version right after it when a token was won and no version is
known. It succeeds exactly when both do. The session loses its token for it, and takes the one that
was won with its credentials. -/
theorem authenticate_exchanges :
    let login := upon .login (w.loginRequest s.desk.current c timeout) s.script
    ∃ inner, Trace.exchanges s.script (authenticate w c timeout s).events =
        login.toList ++ inner.toList ∧
      (∀ token, login.bind (token? w.codecs) = some token →
        Happens .version (s.desk.current.isVersionKnown = false)
          (w.versionRequest (s.desk.current.established token c) timeout) inner ∧
        (authenticate w c timeout s).standing.desk.current =
          (s.desk.current.established token c).told w.codecs inner) ∧
      (login.bind (token? w.codecs) = none → inner = none ∧
        (authenticate w c timeout s).standing.desk.current = s.desk.current.restarted) ∧
      ∀ token, (authenticate w c timeout s).result = .ok token ↔
        login.bind (token? w.codecs) = some token ∧
        (s.desk.current.isVersionKnown = true ∨ (inner.bind (word? w.codecs)).isSome) := by
  intro login
  obtain ⟨hx, hr, hs⟩ := exchange_upon w c timeout s
  cases he : (exchange w c timeout s).result with
  | error fault =>
    have ht : login.bind (token? w.codecs) = none := by rw [← hr, he]; rfl
    have hd := exchange_desk w c timeout s
    rw [he] at hd
    rw [authenticate_of_error he]
    refine ⟨none, by rw [hx, Option.toList_none, List.append_nil], ?_, ?_, ?_⟩
    · simp [ht]
    · exact fun _ => ⟨rfl, by rw [hd]; rfl⟩
    · simp [ht]
  | ok token =>
    have ht : login.bind (token? w.codecs) = some token := by rw [← hr, he]; rfl
    have hcur : (exchange w c timeout s).standing.desk.current =
        s.desk.current.established token c := hs token ht
    have hv : (exchange w c timeout s).standing.desk.current.isVersionKnown =
        s.desk.current.isVersionKnown := by rw [hcur]; rfl
    cases hk : s.desk.current.isVersionKnown with
    | true =>
      rw [authenticate_of_known he (hv.trans hk)]
      refine ⟨none, by rw [hx, Option.toList_none, List.append_nil], ?_, by simp [ht], ?_⟩
      · intro token' ht'
        cases ht.symm.trans ht'
        exact ⟨happens_none (by simp) _, hcur⟩
      · simp [ht]
    | false =>
      rw [authenticate_of_unknown he (hv.trans hk)]
      obtain ⟨hx', hs', hr'⟩ := askVersion_upon w timeout (exchange w c timeout s).standing
      rw [hcur] at hx' hs' hr'
      refine ⟨upon .version (w.versionRequest (s.desk.current.established token c) timeout)
        (exchange w c timeout s).standing.script, ?_, ?_, by simp [ht], ?_⟩
      · rw [Trace.exchanges_append_of_paced (exchange_built w c timeout).paced, hx, hx']
      · intro token' ht'
        cases ht.symm.trans ht'
        exact ⟨happens_upon .version rfl _ _, hs'⟩
      · intro token'
        have hi := congrArg Option.isSome hr'
        rw [Option.isSome_map] at hi
        simp only [ht, Option.some.injEq, Bool.false_eq_true, false_or, ← hi]
        cases (askVersion w timeout (exchange w c timeout s).standing).result with
        | ok version => simp [Except.map, Except.toOption]
        | error fault => simp [Except.map, Except.toOption]

/-- A login attempt with the credentials that the session holds changes no more of it than the token
and the version. -/
theorem authenticate_upon (hc : s.desk.current.credentials = some c) :
    let login := upon .login (w.loginRequest s.desk.current c timeout) s.script
    ∃ inner, Trace.exchanges s.script (authenticate w c timeout s).events =
        login.toList ++ inner.toList ∧
      Happens .version
        ((login.bind (token? w.codecs)).isSome ∧ s.desk.current.isVersionKnown = false)
        (w.versionRequest (s.desk.current.renewed w.codecs login) timeout) inner ∧
      ((login.bind (token? w.codecs)).isSome → (authenticate w c timeout s).standing.desk.current =
        (s.desk.current.renewed w.codecs login).told w.codecs inner) ∧
      ((authenticate w c timeout s).result.toOption.isSome ↔ (login.bind (token? w.codecs)).isSome ∧
        (s.desk.current.isVersionKnown = true ∨ (inner.bind (word? w.codecs)).isSome)) := by
  intro login
  obtain ⟨inner, hx, hwon, hlost, hr⟩ := authenticate_exchanges w c timeout s
  have hsome : (authenticate w c timeout s).result.toOption.isSome ↔
      (login.bind (token? w.codecs)).isSome ∧
      (s.desk.current.isVersionKnown = true ∨ (inner.bind (word? w.codecs)).isSome) := by
    cases hres : (authenticate w c timeout s).result with
    | ok token =>
      obtain ⟨ht, hk⟩ := (hr token).mp hres
      exact iff_of_true rfl ⟨by rw [ht]; rfl, hk⟩
    | error fault =>
      refine iff_of_false (by simp [Except.toOption]) fun ⟨ht, hk⟩ => ?_
      obtain ⟨token, ht⟩ := Option.isSome_iff_exists.mp ht
      rw [(hr token).mpr ⟨ht, hk⟩] at hres
      cases hres
  refine ⟨inner, hx, ?_, ?_, hsome⟩
  · cases ht : login.bind (token? w.codecs) with
    | none =>
      rw [(hlost ht).1]
      exact happens_none (by simp) _
    | some token =>
      rw [← Session.established_eq_renewed w.codecs hc ht]
      exact (hwon token ht).1.congr (by simp)
  · intro ht
    obtain ⟨token, ht⟩ := Option.isSome_iff_exists.mp ht
    rw [← Session.established_eq_renewed w.codecs hc ht]
    exact (hwon token ht).2

end Login

namespace Dispatch

variable {α : Type} (w : Wire) (order : Order) {reading : Reply → Except Fault α} (s : Standing)

/-- An attempt is one exchange, if the request can be made. -/
theorem attempt_exchanges :
    Trace.exchanges s.script (attempt w order reading s).events =
      (upon .resource (w.resourceRequest s.desk.current order) s.script).toList := by
  cases hb : w.resourceRequest s.desk.current order with
  | error fault =>
    rw [attempt_unsent hb]
    rfl
  | ok request =>
    rw [attempt_sent hb, Trace.exchanges_noted, Wire.exchanges_inquiryEvents]
    rfl

/-- It leaves the desk alone, and finds the token turned down exactly when the reply has the status
for that. -/
theorem attempt_upon (hc : Reply.IsCalm reading) (hs : IsSoundScript s.script) :
    let e := upon .resource (w.resourceRequest s.desk.current order) s.script
    Trace.exchanges s.script (attempt w order reading s).events = e.toList ∧
      (attempt w order reading s).standing.desk = s.desk ∧
      ((∃ fault, (attempt w order reading s).result = .error fault ∧
        isUnauthorized fault = true) ↔ e.bind status? = some unauthorizedStatus) := by
  intro e
  refine ⟨attempt_exchanges w order s, attempt_desk w order reading s, ?_⟩
  cases hb : w.resourceRequest s.desk.current order with
  | error fault =>
    have he : e = none := upon_of_error .resource hb s.script
    rw [attempt_unsent hb, he]
    simp [Wire.resourceRequest_calm hb]
  | ok request =>
    have he : e = some ⟨.resource, request, s.script.head?⟩ := upon_of_ok .resource hb s.script
    rw [attempt_sent hb, he]
    exact settle_unauthorized_iff hc ⟨.resource, request, s.script.head?⟩
      fun r hr => hs.head? hr

/-- A call whose token is turned down, in a session with credentials. The login follows, perhaps the
version, and the request again exactly when both have succeeded. -/
theorem withRenewal_of_rejected_renews (hc : Reply.IsCalm reading) (hs : IsSoundScript s.script)
    {due : Prop} {e : Option Exchange} {c : Credentials} (hcr : s.desk.current.credentials = some c)
    (hf : Happens .resource due (w.resourceRequest s.desk.current order) e)
    (hx : Trace.exchanges s.script (attempt w order reading s).events = e.toList)
    (hst : e.bind status? = some unauthorizedStatus)
    (hr : ∃ fault, (attempt w order reading s).result = .error fault ∧
      isUnauthorized fault = true) :
    ∃ d : Dialogue, d.leading = none ∧ d.Renews w order due s.desk.current ∧
      Trace.exchanges s.script
        (withRenewal w order.timeout (attempt w order reading) s).events = d.word := by
  obtain ⟨fault, hr, hu⟩ := hr
  have hk := (attempt_upon w order s hc hs).2.1
  have hsl := Trace.script_after (attempt_built w order reading).paced s
  generalize hs₁ : (attempt w order reading s).standing = s₁ at hk hsl
  have hx₁ (later : List Event) : Trace.exchanges s.script
      ((attempt w order reading s).events ++ .noted .tokenRejected :: later) =
      e.toList ++ Trace.exchanges s₁.script later := by
    rw [Trace.exchanges_append_of_paced (attempt_built w order reading).paced, hx, hs₁,
      Trace.exchanges_noted]
  have hcr₁ : s₁.desk.current.credentials = some c := by rw [hk]; exact hcr
  obtain ⟨inner, hlx, hi, hlt, hlr⟩ := Login.authenticate_upon w c order.timeout s₁ hcr₁
  rw [hk] at hlx hi hlt hlr
  have hl := happens_upon .login hst (w.loginRequest s.desk.current c order.timeout) s₁.script
  generalize upon .login (w.loginRequest s.desk.current c order.timeout) s₁.script = login
    at hlx hi hlt hlr hl
  have hlogin : ∀ c', s.desk.current.credentials = some c' →
      Happens .login (e.bind status? = some unauthorizedStatus)
        (w.loginRequest s.desk.current c' order.timeout) login := by
    intro c' hc'
    rw [hcr] at hc'
    cases hc'
    exact hl
  have hnone (l : Option Exchange) (h : s.desk.current.credentials = none) : l = none := by
    rw [hcr] at h
    cases h
  cases hres : (Login.authenticate w c order.timeout s₁).result with
  | error f =>
    have hw := withRenewal_of_lost hr hu (hs₁ ▸ hcr₁) (hs₁ ▸ hres)
    rw [hs₁] at hw
    simp only [hres] at hlr
    refine ⟨{ first := e, login, inner }, rfl,
      ⟨hf, hlogin, hnone _, hi, happens_none ?_ _⟩, ?_⟩
    · rw [← hlr]
      simp [Except.toOption]
    · rw [hw, hx₁, hlx]
      simp [Dialogue.word]
  | ok token =>
    have hw := withRenewal_of_won hr hu (hs₁ ▸ hcr₁) (hs₁ ▸ hres)
    rw [hs₁] at hw
    simp only [hres] at hlr
    have hdue := hlr.mp rfl
    have hk₂ := hlt hdue.1
    have hs₂ : IsSoundScript (Login.authenticate w c order.timeout s₁).standing.script := by
      rw [Trace.script_after (Login.authenticate_built w c order.timeout).paced, hsl]
      exact (hs.drop _).drop _
    have hx₂ := (attempt_upon w order (Login.authenticate w c order.timeout s₁).standing hc hs₂).1
    have hreplay := happens_upon .resource hdue
      (w.resourceRequest ((s.desk.current.renewed w.codecs login).told w.codecs inner) order)
      (Login.authenticate w c order.timeout s₁).standing.script
    rw [hk₂] at hx₂
    generalize upon .resource
      (w.resourceRequest ((s.desk.current.renewed w.codecs login).told w.codecs inner) order)
      (Login.authenticate w c order.timeout s₁).standing.script = replay at hx₂ hreplay
    refine ⟨{ first := e, login, inner, replay }, rfl,
      ⟨hf, hlogin, hnone _, hi, hreplay⟩, ?_⟩
    rw [hw, hx₁, Trace.exchanges_append_of_paced (Login.authenticate_built w c order.timeout).paced,
      hlx, hx₂]
    simp [Dialogue.word]

/-- A call with one renewal. -/
theorem withRenewal_renews (hc : Reply.IsCalm reading) (hs : IsSoundScript s.script)
    {due : Prop} (hd : due) :
    ∃ d : Dialogue, d.leading = none ∧ d.Renews w order due s.desk.current ∧
      Trace.exchanges s.script
        (withRenewal w order.timeout (attempt w order reading) s).events = d.word := by
  obtain ⟨hx, hk, hu⟩ := attempt_upon w order s hc hs
  have hf := happens_upon .resource hd (w.resourceRequest s.desk.current order) s.script
  generalize upon .resource (w.resourceRequest s.desk.current order) s.script = e at hx hu hf
  by_cases hst : e.bind status? = some unauthorizedStatus ∧ s.desk.current.credentials ≠ none
  · obtain ⟨hst, hcr⟩ := hst
    obtain ⟨c, hcr⟩ := Option.ne_none_iff_exists'.mp hcr
    exact withRenewal_of_rejected_renews w order s hc hs hcr hf hx hst (hu.mpr hst)
  · have alone : ∀ fault, (attempt w order reading s).result = .error fault →
        isUnauthorized fault = true →
        (attempt w order reading s).standing.desk.current.credentials = none := by
      intro fault hr hun
      have hst' := hu.mp ⟨fault, hr, hun⟩
      by_cases hcr : s.desk.current.credentials = none
      · rw [hk]; exact hcr
      · exact absurd ⟨hst', hcr⟩ hst
    rw [withRenewal_of_alone alone, hx]
    refine ⟨{ first := e }, rfl, ⟨hf, ?_, fun _ => rfl, happens_none (by simp) _,
      happens_none (by simp) _⟩, by simp [Dialogue.word]⟩
    intro c hcr
    refine happens_none (fun hst' => hst ⟨hst', ?_⟩) _
    rw [hcr]
    simp

/-- A whole call has one dialogue, whatever the session, the order and the answers. -/
theorem dispatch_follows (hc : Reply.IsCalm reading) (hs : IsSoundScript s.script) :
    ∃ d : Dialogue, d.Follows w order s.desk.current ∧
      Trace.exchanges s.script (dispatch w order reading s).events = d.word := by
  cases hk : s.desk.current.isVersionKnown with
  | true =>
    have hdue : s.desk.current.isVersionKnown = true ∨
        ((none : Option Exchange).bind (word? w.codecs)).isSome := .inl hk
    obtain ⟨d, hl, hr, hx⟩ := withRenewal_renews w order s hc hs hdue
    rw [dispatch_of_known hk]
    exact ⟨d, ⟨hl ▸ happens_none (by simp [hk]) _, hl ▸ hr⟩, hx⟩
  | false =>
    obtain ⟨hx, hcur, hres⟩ := Login.askVersion_upon w order.timeout s
    have hp := (Login.askVersion_built w order.timeout).paced
    have hl := happens_upon .version hk (w.versionRequest s.desk.current order.timeout) s.script
    generalize upon .version (w.versionRequest s.desk.current order.timeout) s.script = e
      at hx hcur hres hl
    have ha := congrArg Option.isSome hres
    rw [Option.isSome_map] at ha
    cases hr : (Login.askVersion w order.timeout s).result with
    | error fault =>
      rw [hr] at ha
      rw [dispatch_of_untold hk hr, hx]
      have hn : ¬(s.desk.current.isVersionKnown = true ∨
          (e.bind (word? w.codecs)).isSome = true) := by
        simp [hk, ← ha, Except.toOption]
      exact ⟨{ leading := e }, ⟨hl, Dialogue.renews_of_not_due hn _ _⟩, by simp [Dialogue.word]⟩
    | ok version =>
      rw [hr] at ha
      have hs' : IsSoundScript (Login.askVersion w order.timeout s).standing.script := by
        rw [Trace.script_after hp]
        exact hs.drop _
      have hdue : s.desk.current.isVersionKnown = true ∨ (e.bind (word? w.codecs)).isSome :=
        .inr ha.symm
      obtain ⟨d, hd, hren, hx'⟩ := withRenewal_renews w order _ hc hs' hdue
      rw [hcur] at hren
      rw [dispatch_of_told hk hr]
      refine ⟨{ d with leading := e }, ⟨hl, hren.withLeading e⟩, ?_⟩
      rw [Trace.exchanges_append_of_paced hp, hx, hx']
      simp [Dialogue.word, hd]

/-- So has a call that is timed. -/
theorem run_follows (hc : Reply.IsCalm reading) (hs : IsSoundScript s.script) :
    ∃ d : Dialogue, d.Follows w order s.desk.current ∧
      Trace.exchanges s.script (run w order reading s).events = d.word := by
  obtain ⟨d, hd, hx⟩ := dispatch_follows w order s hc hs
  refine ⟨d, hd, ?_⟩
  rw [run, Call.always_events,
    Trace.exchanges_append_of_paced (dispatch_built w order reading).paced, hx,
    Trace.exchanges_of_all_silent _ (record_silent _ _), List.append_nil]

end Dispatch

end StorageGateway
