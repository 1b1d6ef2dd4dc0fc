import StorageGateway.Proofs.Headers.Presenting
import StorageGateway.Proofs.Renewal.Dialogue
import StorageGateway.Proofs.Url.Gateway

/-! What becomes of a login attempt. At most two requests are sent, the login and then the one for
the version; what came for the first decides whether the second is due, how the attempt ends and
what the session holds then. The credentials are shown in the login and nothing else is. -/
namespace StorageGateway

open Exchange

/-! Where the two requests go. -/

section Addresses

open Url

/-- A relative path of plain segments can be resolved wherever the endpoint can be taken apart. -/
theorem Endpoint.exists_resolve_iff (endpoint : Text) {path : Text} (hp : Leads [] path ⟨[], []⟩)
    (hne : path.dropWhile isSlash ≠ [])
    (hr : ∀ scheme, Leads scheme (path.dropWhile isSlash) ⟨scheme, []⟩) :
    (∃ url, resolve endpoint path = .ok url) ↔
      ∃ o, Leads [] (normalize endpoint ++ [CodePoint.slash]) o := by
  obtain ⟨p, hs, ho⟩ := hp
  have hscheme : p.scheme = [] := congrArg Origin.scheme ho
  have hbase : normalize endpoint ++ [CodePoint.slash] ≠ [] := by simp
  rw [resolve_of_split hs (.inl hscheme)]
  constructor
  · rintro ⟨url, hu⟩
    cases hb : split [] (normalize endpoint ++ [CodePoint.slash]) with
    | ok b => exact ⟨b.origin, b, hb, rfl⟩
    | error fault =>
      unfold join at hu
      rw [if_neg hbase, if_neg hne, hb] at hu
      cases hu
  · rintro ⟨o, b, hb, -⟩
    obtain ⟨q, hq, -⟩ := hr b.scheme
    rw [join_eq hbase hne hb, hq]
    simp only [Except.bind]
    split
    · exact ⟨_, rfl⟩
    · exact ⟨_, rfl⟩

theorem Session.exists_resolve_version {s : Session} {url : Text}
    (h : s.resolve Login.loginPath = .ok url) : ∃ url, s.resolve Login.versionPath = .ok url := by
  have hlogin := Endpoint.exists_resolve_iff s.endpoint (Login.loginPath_leads []).1 (by decide)
    fun scheme => (Login.loginPath_leads scheme).2
  have hversion := Endpoint.exists_resolve_iff s.endpoint (Login.versionPath_leads []).1 (by decide)
    fun scheme => (Login.versionPath_leads scheme).2
  obtain ⟨v, hv⟩ := hversion.mpr (hlogin.mp ⟨url, Session.resolve_eq_ok h⟩)
  exact ⟨v, by rw [Session.resolve, hv]; rfl⟩

end Addresses

/-! What a login shows. -/

namespace Bytes

theorem ofLatin1_append {s t : Text} {a b : Bytes} (hs : ofLatin1 s = .ok a)
    (ht : ofLatin1 t = .ok b) : ofLatin1 (s ++ t) = .ok (a ++ b) := by
  unfold ofLatin1 at hs ht ⊢
  split at hs
  · split at ht
    · rename_i hs' ht'
      cases hs
      cases ht
      simp [List.all_append, hs', ht']
    · cases ht
  · cases hs

end Bytes

/-- A header value that shows credentials: user and password with a colon between them. -/
def Credentials.ShownBy (c : Credentials) (value : Text) : Prop :=
  ∃ digits bytes, value = "Basic " ++ digits ∧ Bytes.Base64.decode? digits = some bytes ∧
    Bytes.ofLatin1 (c.username ++ ":" ++ c.password) = .ok bytes

theorem Authorization.basic_shows {c : Credentials} {value : Text}
    (h : basic c.username c.password = .ok value) : c.ShownBy value := by
  unfold basic encodeField at h
  cases hu : Bytes.ofLatin1 c.username with
  | error e => rw [hu] at h; cases h
  | ok user =>
    cases hp : Bytes.ofLatin1 c.password with
    | error e => rw [hu, hp] at h; cases h
    | ok pass =>
      rw [hu, hp] at h
      cases h
      exact ⟨_, _, rfl, Bytes.Base64.decode?_encode _,
        Bytes.ofLatin1_append (Bytes.ofLatin1_append hu rfl) hp⟩

/-- The request of a login: it shows the credentials, whatever the default headers say, and nothing
else of the session than its version. -/
structure Request.LogsIn (request : Request) (w : Wire) (s : Session) (c : Credentials) : Prop where
  method : request.method = "GET"
  url : s.resolve "/api/login" = .ok request.url
  params : request.params = none
  body : request.body = none
  entry : ∃ value, request.headers.get? "Authorization" = some value ∧ c.ShownBy value
  others : ∀ name, name ≠ Headers.authorization →
    request.headers.get? name = (Headers.negotiating s.version w.defaultHeaders).get? name

theorem Wire.loginRequest_logsIn {w : Wire} {s : Session} {c : Credentials}
    {timeout : Option Binary64} {request : Request}
    (h : w.loginRequest s c timeout = .ok request) : request.LogsIn w s c := by
  obtain ⟨headers, url, hh, hu, rfl⟩ := loginRequest_ok h
  rw [Authorization.ofCredentials_eq] at hh
  cases hb : Authorization.basic c.username c.password with
  | error fault => rw [hb] at hh; cases hh
  | ok value =>
    rw [hb] at hh
    cases hh
    exact
      { method := rfl
        url := hu
        params := rfl
        body := rfl
        entry := ⟨value, Fields.get?_put_self .., Authorization.basic_shows hb⟩
        others := fun name hn => Fields.get?_put_of_ne hn .. }

/-- A login is sent wherever it has an address and the credentials have a form. -/
theorem Wire.loginRequest_error_iff {w : Wire} {s : Session} {c : Credentials}
    {timeout : Option Binary64} :
    (∃ fault, w.loginRequest s c timeout = .error fault) ↔
      (∃ fault, s.resolve Login.loginPath = .error fault) ∨
      ∃ fault, Authorization.ofCredentials c (Headers.negotiating s.version w.defaultHeaders) =
        .error fault := by
  unfold loginRequest
  cases Authorization.ofCredentials c (Headers.negotiating s.version w.defaultHeaders) with
  | error fault => exact iff_of_true ⟨fault, rfl⟩ (.inr ⟨fault, rfl⟩)
  | ok headers =>
    cases s.resolve Login.loginPath with
    | error fault => exact iff_of_true ⟨fault, rfl⟩ (.inl ⟨fault, rfl⟩)
    | ok url =>
      refine iff_of_false ?_ ?_
      · rintro ⟨fault, h⟩
        cases h
      · rintro (⟨fault, h⟩ | ⟨fault, h⟩) <;> cases h

/-- The request for the version that follows a login. -/
structure Request.AsksVersion (request : Request) (w : Wire) (s : Session) : Prop where
  method : request.method = "GET"
  url : s.resolve "/api/version" = .ok request.url
  params : request.params = none
  body : request.body = none
  headers : s.headers w.defaultHeaders = .ok request.headers

theorem Wire.versionRequest_eq_map {w : Wire} {s : Session} {timeout : Option Binary64} {url : Text}
    (h : s.resolve Login.versionPath = .ok url) :
    w.versionRequest s timeout = (s.headers w.defaultHeaders).map fun headers =>
      w.request Login.getMethod url headers none none timeout := by
  unfold versionRequest
  cases s.headers w.defaultHeaders with
  | error fault => rfl
  | ok headers => simp [h, bind, Except.bind, pure, Except.pure, Except.map]

theorem Wire.versionRequest_asksVersion {w : Wire} {s : Session} {timeout : Option Binary64}
    {request : Request} (h : w.versionRequest s timeout = .ok request) :
    request.AsksVersion w s := by
  obtain ⟨headers, url, hh, hu, rfl⟩ := versionRequest_ok h
  exact { method := rfl, url := hu, params := rfl, body := rfl, headers := hh }

/-! How a login is lost. -/

/-- A failure of the credentials that tells what the gateway's own error told. -/
structure Failure.Retells (g f : Failure) : Prop where
  kind : g.kind = .authentication
  status : g.status = some 401
  text : g.text = f.text
  errorCode : g.errorCode = f.errorCode
  details : g.details = f.details

/-- The words of a rejection, put in the place of its message, stay its words: a detail that stands
in for the placeholder is found again if it is the placeholder itself. -/
theorem Login.authenticationFailed_retells {f : Failure} (h : f.kind.isRejection = true) :
    (authenticationFailed f).Retells f := by
  refine { kind := rfl, status := rfl, text := ?_, errorCode := rfl, details := rfl }
  have ha : Failure.Kind.isRejection .authentication = true := rfl
  unfold authenticationFailed Failure.text
  simp only [h, ha, true_and]
  by_cases hm : f.message = Failure.placeholder
  · rw [if_pos hm]
    cases Failure.firstDetail? f.details with
    | none => simp
    | some detail => simp
  · rw [if_neg hm, if_neg hm]

namespace Login

/-- What a login without a token fails with, by what came for it. -/
inductive Loses (codecs : Bytes.Codecs) : Option Answer → Fault → Prop
  | unanswered : Loses codecs none Wire.nothingLeft
  | unreachable (why : Unreachable) (text : Text) :
    Loses codecs (some (.unreachable why text)) (Wire.noResponse why text)
  | crashed (why : Crash) (text : Text) :
    Loses codecs (some (.crash why text)) (.ofMishap (.crashed why text))
  | denied {r : Reply} {f g : Failure} (status : r.status = 401) (told : r.rejection = .ok f)
    (retold : g.Retells f) : Loses codecs (some (.reply r)) (.wrap g (.ofFailure f))
  | rejected {r : Reply} {f : Failure} (other : r.status ≠ 401)
    (unsuccessful : isSuccess r.status = false) (told : r.rejection = .ok f) :
    Loses codecs (some (.reply r)) (.ofFailure f)
  | bodiless {r : Reply} (zero : r.status = 0) :
    Loses codecs (some (.reply r)) (.ofMishap (.noBody .strip))
  | unreadable {r : Reply} {fault : Fault} (success : isSuccess r.status = true)
    (unread : r.scalar codecs = .error fault) : Loses codecs (some (.reply r)) fault
  | tokenless {r : Reply} (success : isSuccess r.status = true)
    (empty : r.scalar codecs = .ok []) :
    Loses codecs (some (.reply r)) (.ofFailure (missingToken r.status))

theorem loses_of_settle {codecs : Bytes.Codecs} {answer : Option Answer} {fault : Fault}
    (hs : ∀ r, answer = some (.reply r) → r.IsSound)
    (h : Answer.settle (Reply.token codecs) answer = .error fault) :
    Loses codecs answer fault := by
  cases answer with
  | none => cases h; exact .unanswered
  | some answer =>
    cases answer with
    | unreachable why text => cases h; exact .unreachable why text
    | crash why text => cases h; exact .crashed why text
    | reply r =>
      change r.token codecs = .error fault at h
      unfold Reply.token at h
      split at h
      · rename_i success
        cases hw : r.scalar codecs with
        | error unread =>
          rw [hw] at h
          cases h
          exact .unreadable success hw
        | ok word =>
          simp only [hw, Except.bind] at h
          split at h
          · rename_i hempty
            cases h
            exact .tokenless success (hempty ▸ hw)
          · cases h
      · rename_i hsuccess
        cases hr : r.rejection with
        | error unread =>
          rw [hr] at h
          cases h
          by_cases hzero : r.status = 0
          · have hbody : r.rejection = .error (.ofMishap (.noBody .strip)) := by
              simp [Reply.rejection, Reply.content, hzero]
            cases hr.symm.trans hbody
            exact .bodiless hzero
          · obtain ⟨f, hf⟩ := Reply.exists_rejection (hs r rfl) hzero
            rw [hr] at hf
            cases hf
        | ok f =>
          have hstatus : f.status = some r.status := by
            obtain ⟨body, rfl⟩ := Reply.rejection_eq_ok hr
            exact r.rejectionFrom_status body
          have hkind : f.kind.isRejection = true := by
            rw [Reply.kind_of_rejection hr, Reply.rejectionKind]
            split <;> rfl
          simp only [hr, Except.bind, hstatus, Option.some.injEq] at h
          split at h
          · rename_i h401
            cases h
            exact .denied h401 hr (authenticationFailed_retells hkind)
          · rename_i h401
            cases h
            exact .rejected h401 (by simpa using hsuccess) hr

/-- The exchange of an attempt that loses is the login, and decides the fault. -/
theorem authenticate_loses {w : Wire} {c : Credentials} {timeout : Option Binary64} {s : Standing}
    (hs : IsSoundScript s.script) {request : Request}
    (hb : w.loginRequest s.desk.current c timeout = .ok request)
    (ht : token? w.codecs ⟨.login, request, s.script.head?⟩ = none) :
    ∃ fault, (authenticate w c timeout s).result = .error fault ∧
      Loses w.codecs s.script.head? fault := by
  rw [token?_eq] at ht
  cases ha : Answer.settle (Reply.token w.codecs) s.script.head? with
  | ok token => rw [ha] at ht; cases ht
  | error fault =>
    have he : (exchange w c timeout s).result = .error fault := by rw [exchange_failed hb ha]
    rw [authenticate_of_error he]
    exact ⟨fault, rfl, loses_of_settle (fun r hr => hs.head? hr) ha⟩

/-- What a failed question for the version makes of a login that was won. -/
structure FailsFor (fault : Fault) (result : Except Fault Text) : Prop where
  own : ∀ f, fault.failure? = some f → ∃ g, result = .error (.wrap g fault) ∧ g.kind = .version ∧
    g.text = "error getting version of PowerFlex: " ++ f.text
  foreign : fault.failure? = none → result = .error fault

theorem failsFor_wrapVersionFault (fault : Fault) :
    FailsFor fault (.error (wrapVersionFault fault)) := by
  unfold wrapVersionFault
  refine ⟨?_, ?_⟩
  · intro f hf
    exact ⟨versionUnknown f, by rw [hf], rfl, rfl⟩
  · intro hf
    rw [hf]

/-- After a login that was won without a version, the question for the version is the other
exchange, and decides the end. -/
theorem authenticate_untold {w : Wire} {c : Credentials} {timeout : Option Binary64} {s : Standing}
    {inner : Option Exchange} {token : Text}
    (ht : (upon .login (w.loginRequest s.desk.current c timeout) s.script).bind
      (token? w.codecs) = some token)
    (hx : Trace.exchanges s.script (authenticate w c timeout s).events =
      (upon .login (w.loginRequest s.desk.current c timeout) s.script).toList ++ inner.toList)
    (hk : s.desk.current.isVersionKnown = false) (hn : inner.bind (word? w.codecs) = none) :
    ∃ fault, FailsFor fault (authenticate w c timeout s).result ∧
      (∀ e ∈ inner, Answer.settle (Reply.verdict (Reply.scalar w.codecs)) e.answer = .error fault) ∧
      (inner = none →
        w.versionRequest (s.desk.current.established token c) timeout = .error fault) := by
  obtain ⟨hx₁, hr, hs⟩ := exchange_upon w c timeout s
  have hcur : (exchange w c timeout s).standing.desk.current =
      s.desk.current.established token c := hs token ht
  have he : (exchange w c timeout s).result = .ok token := by
    rw [ht] at hr
    cases hres : (exchange w c timeout s).result with
    | ok t => rw [hres] at hr; cases hr; rfl
    | error fault => rw [hres] at hr; cases hr
  have hv : (exchange w c timeout s).standing.desk.current.isVersionKnown = false := by
    rw [hcur]; exact hk
  rw [authenticate_of_unknown he hv] at hx ⊢
  obtain ⟨hx₂, -, -⟩ := askVersion_upon w timeout (exchange w c timeout s).standing
  rw [Trace.exchanges_append_of_paced (exchange_built w c timeout).paced, hx₁, hx₂, hcur] at hx
  have hinner : upon .version (w.versionRequest (s.desk.current.established token c) timeout)
      (exchange w c timeout s).standing.script = inner := by
    simpa using congrArg List.head? (List.append_cancel_left hx)
  cases hb : w.versionRequest (s.desk.current.established token c) timeout with
  | error fault =>
    rw [upon_of_error .version hb] at hinner
    subst hinner
    rw [askVersion_unsent (hcur ▸ hb)]
    exact ⟨fault, failsFor_wrapVersionFault fault, fun e he => (by cases he), fun _ => rfl⟩
  | ok request =>
    rw [upon_of_ok .version hb] at hinner
    subst hinner
    rw [Option.bind_some, word?_eq] at hn
    cases ha : Answer.settle (Reply.verdict (Reply.scalar w.codecs))
        (exchange w c timeout s).standing.script.head? with
    | ok raw => rw [ha] at hn; cases hn
    | error fault =>
      rw [askVersion_failed (hcur ▸ hb) ha]
      refine ⟨fault, failsFor_wrapVersionFault fault, ?_, fun h => by cases h⟩
      rintro e ⟨⟩
      exact ha

/-- Where the two exchanges of an attempt come from: the first from the session that the attempt
finds, the second from the one that the token makes of it. -/
structure Course (w : Wire) (c : Credentials) (timeout : Option Binary64) (s : Standing)
    (login inner : Option Exchange) : Prop where
  made : ∀ e ∈ login, e.purpose = .login ∧ e.answer = s.script.head? ∧
    w.loginRequest s.desk.current c timeout = .ok e.request
  won : ∀ token, login.bind (token? w.codecs) = some token →
    Happens .version (s.desk.current.isVersionKnown = false)
      (w.versionRequest (s.desk.current.established token c) timeout) inner
  lost : login.bind (token? w.codecs) = none → inner = none

namespace Course

variable {w : Wire} {c : Credentials} {timeout : Option Binary64} {s : Standing}
  {login inner : Option Exchange} (h : Course w c timeout s login inner)
include h

/-- A session that has logged in finds the way to the version. -/
theorem exists_versionUrl {token : Text} (ht : login.bind (token? w.codecs) = some token) :
    ∃ url, (s.desk.current.established token c).resolve versionPath = .ok url := by
  obtain ⟨e, he, -⟩ := Option.bind_eq_some_iff.mp ht
  obtain ⟨-, url, -, hu, -⟩ := Wire.loginRequest_ok (h.made e he).2.2
  exact Session.exists_resolve_version (s := s.desk.current) hu

/-- The question for the version can be made exactly when the token can be shown. -/
theorem versionRequest_eq {token : Text} (ht : login.bind (token? w.codecs) = some token) :
    ∃ url, w.versionRequest (s.desk.current.established token c) timeout =
      ((s.desk.current.established token c).headers w.defaultHeaders).map fun headers =>
        w.request getMethod url headers none none timeout := by
  obtain ⟨url, hu⟩ := h.exists_versionUrl ht
  exact ⟨url, Wire.versionRequest_eq_map hu⟩

theorem inner_of {e : Exchange} (he : e ∈ inner) :
    ∃ token, login.bind (token? w.codecs) = some token ∧
    s.desk.current.isVersionKnown = false ∧ e.purpose = .version ∧
    w.versionRequest (s.desk.current.established token c) timeout = .ok e.request := by
  cases ht : login.bind (token? w.codecs) with
  | none =>
    rw [h.lost ht] at he
    cases he
  | some token =>
    have hhappens := h.won token ht
    rw [he] at hhappens
    exact ⟨token, rfl, hhappens⟩

theorem timed {e : Exchange} (he : e ∈ login.toList ++ inner.toList) :
    e.request.timeout = timeout.getD w.timeout := by
  rw [List.mem_append, Option.mem_toList, Option.mem_toList] at he
  rcases he with he | he
  · obtain ⟨headers, url, -, -, hreq⟩ := Wire.loginRequest_ok (h.made e he).2.2
    rw [hreq]
    rfl
  · obtain ⟨token, -, -, -, hb⟩ := h.inner_of he
    obtain ⟨headers, url, -, -, hreq⟩ := Wire.versionRequest_ok hb
    rw [hreq]
    rfl

theorem inner_isSome_iff : inner.isSome ↔
    ∃ token headers, login.bind (token? w.codecs) = some token ∧
    s.desk.current.isVersionKnown = false ∧
    (s.desk.current.established token c).headers w.defaultHeaders = .ok headers := by
  constructor
  · intro hsome
    obtain ⟨e, he⟩ := Option.isSome_iff_exists.mp hsome
    obtain ⟨token, ht, hk, -, hb⟩ := h.inner_of he
    exact ⟨token, _, ht, hk, Wire.headers_of_versionRequest hb⟩
  · rintro ⟨token, headers, ht, hk, hh⟩
    have hhappens := h.won token ht
    cases hi : inner with
    | some e => rfl
    | none =>
      rw [hi] at hhappens
      obtain ⟨fault, hb⟩ := hhappens hk
      obtain ⟨url, hu⟩ := h.versionRequest_eq ht
      rw [hu, hh] at hb
      cases hb

/-- What keeps the question for the version back is that the token cannot be shown. -/
theorem headers_of_versionRequest_error {token : Text}
    (ht : login.bind (token? w.codecs) = some token)
    {fault : Fault}
    (hb : w.versionRequest (s.desk.current.established token c) timeout = .error fault) :
    (s.desk.current.established token c).headers w.defaultHeaders = .error fault := by
  obtain ⟨url, hu⟩ := h.versionRequest_eq ht
  rw [hu] at hb
  cases hh : (s.desk.current.established token c).headers w.defaultHeaders with
  | error e => rw [hh] at hb; cases hb; rfl
  | ok headers => rw [hh] at hb; cases hb

end Course

/-- A login attempt: its two requests, when each is sent, what the attempt returns and what the
session holds then. -/
structure Attempted (w : Wire) (c : Credentials) (timeout : Option Binary64) (s : Standing)
    (login inner : Option Exchange) (o : Outcome Text) : Prop where
  exchanges : Trace.exchanges s.script o.events = login.toList ++ inner.toList
  timed : ∀ e ∈ login.toList ++ inner.toList, e.request.timeout = timeout.getD w.timeout
  shown : ∀ e ∈ login, e.purpose = .login ∧ e.request.LogsIn w s.desk.current c
  unsent : login = none ↔
    (∃ fault, s.desk.current.resolve "/api/login" = .error fault) ∨
    ∃ fault, Authorization.ofCredentials c
      (Headers.negotiating s.desk.current.version w.defaultHeaders) = .error fault
  asking : ∀ e ∈ inner, e.purpose = .version ∧ ∃ token, login.bind (token? w.codecs) = some token ∧
    e.request.AsksVersion w (s.desk.current.established token c)
  asked : inner.isSome ↔ ∃ token headers, login.bind (token? w.codecs) = some token ∧
    s.desk.current.isVersionKnown = false ∧
    (s.desk.current.established token c).headers w.defaultHeaders = .ok headers
  returns : ∀ token, o.result = .ok token ↔ login.bind (token? w.codecs) = some token ∧
    (s.desk.current.isVersionKnown = true ∨ (inner.bind (word? w.codecs)).isSome)
  held : ∀ token, login.bind (token? w.codecs) = some token →
    o.standing.desk.current = (s.desk.current.established token c).told w.codecs inner ∧
    o.standing.desk.current.token = token ∧ o.standing.desk.current.credentials = some c
  lost : login.bind (token? w.codecs) = none → o.standing.desk.current = s.desk.current.restarted
  loses : ∀ e ∈ login, e.token? w.codecs = none →
    ∃ fault, o.result = .error fault ∧ Loses w.codecs e.answer fault
  untold : ∀ token, login.bind (token? w.codecs) = some token →
    s.desk.current.isVersionKnown = false →
    inner.bind (word? w.codecs) = none → ∃ fault, FailsFor fault o.result ∧
      (∀ e ∈ inner, Answer.settle (Reply.verdict (Reply.scalar w.codecs)) e.answer = .error fault) ∧
      (inner = none →
        (s.desk.current.established token c).headers w.defaultHeaders = .error fault)

/-- Every login attempt takes this course, from whatever session and on whatever answers. -/
theorem authenticate_attempted (w : Wire) (c : Credentials) (timeout : Option Binary64)
    (s : Standing) (hs : IsSoundScript s.script) :
    ∃ login inner, Attempted w c timeout s login inner (authenticate w c timeout s) := by
  obtain ⟨inner, hx, hwon, hlost, hr⟩ := authenticate_exchanges w c timeout s
  have hbuilt := fun e => @mem_upon .login (w.loginRequest s.desk.current c timeout) s.script e
  have hnone := @upon_eq_none .login (w.loginRequest s.desk.current c timeout) s.script
  have huntold := fun token ht => @authenticate_untold w c timeout s inner token ht hx
  refine ⟨upon .login (w.loginRequest s.desk.current c timeout) s.script, inner, ?_⟩
  generalize upon .login (w.loginRequest s.desk.current c timeout) s.script = login at *
  have course : Course w c timeout s login inner :=
    { made := fun e he => (hbuilt e).mp he
      won := fun token ht => (hwon token ht).1
      lost := fun ht => (hlost ht).1 }
  refine
    { exchanges := hx
      timed := fun e => course.timed
      shown := fun e he => ⟨((hbuilt e).mp he).1, Wire.loginRequest_logsIn ((hbuilt e).mp he).2.2⟩
      unsent := hnone.trans Wire.loginRequest_error_iff
      asking := ?_
      asked := course.inner_isSome_iff
      returns := hr
      held := ?_
      lost := fun ht => (hlost ht).2
      loses := ?_
      untold := ?_ }
  · intro e he
    obtain ⟨token, ht, -, hp, hb⟩ := course.inner_of he
    exact ⟨hp, token, ht, Wire.versionRequest_asksVersion hb⟩
  · intro token ht
    have hheld := (hwon token ht).2
    refine ⟨hheld, ?_, ?_⟩
    · rw [hheld, Session.told_token]
      rfl
    · rw [hheld, Session.told_credentials]
      rfl
  · intro e he ht
    obtain ⟨hp, ha, hb⟩ := (hbuilt e).mp he
    rw [ha]
    refine authenticate_loses hs hb ?_
    rw [← hp, ← ha]
    exact ht
  · intro token ht hk hn
    obtain ⟨fault, hf, ha, hb⟩ := huntold token ht hk hn
    exact ⟨fault, hf, ha, fun hi => course.headers_of_versionRequest_error ht (hb hi)⟩

end Login

namespace Sample

/-- A client that has not logged in, at a gateway that takes the login and tells its version. -/
def unknown : Standing where
  desk := { current := { endpoint := "https://gateway" } }
  recorder := none
  script := [.reply { status := 200, body := Bytes.ofAscii ("\"token\"" : String) },
    .reply { status := 200, body := Bytes.ofAscii ("\"4.0\"" : String) }]
  answered := 0

theorem unknown_attempted :
    IsSoundScript unknown.script ∧
      ∃ login inner, Login.Attempted wire credentials none unknown login inner
        (Login.authenticate wire credentials none unknown) := by
  have hs : IsSoundScript unknown.script := by simp [unknown, Reply.IsSound]
  exact ⟨hs, Login.authenticate_attempted wire credentials none unknown hs⟩

end Sample

end StorageGateway
