import StorageGateway.Proofs.Closings
import StorageGateway.Proofs.Environment.Readers
import StorageGateway.Proofs.Renewal.Replay
import StorageGateway.Proofs.Url.Resolvable
import StorageGateway.Proofs.Watching.Twins

/-! A command and a program of its user's own, set up by one environment. Both log in and list the
systems, and both begin with the login, which shows the verification and the version that were read.
So they send the same if they read the same, and otherwise their first requests differ: a short no
for a flag, white space around the version, or an endpoint of nothing but white space sets them
apart. -/
namespace StorageGateway

theorem Endpoint.normalize_trim (t : Text) : normalize t.trim = normalize t := by
  unfold normalize
  rw [Text.trim_trim]

/-- Desks with sessions at one gateway, however its endpoint is written. -/
structure Desk.AtOneGateway (d e : Desk) : Prop where
  endpoint : Endpoint.normalize d.current.endpoint = Endpoint.normalize e.current.endpoint
  version : d.current.version = e.current.version
  token : d.current.token = e.current.token
  credentials : d.current.credentials = e.current.credentials

theorem Desk.bisimulation_atOneGateway : Bisimulation AtOneGateway where
  resolve := fun h path => by
    unfold Session.resolve Endpoint.resolve
    rw [h.endpoint]
  version := fun h => h.version
  token := fun h => h.token
  credentials := fun h => h.credentials
  start := fun h => ⟨h.endpoint, h.version, rfl, h.credentials⟩
  establish := fun h _ _ => ⟨h.endpoint, h.version, rfl, rfl⟩
  setVersion := fun h _ => ⟨h.endpoint, rfl, h.token, h.credentials⟩
  setToken := fun h _ => ⟨h.endpoint, h.version, rfl, h.credentials⟩
  install := fun _ _ => ⟨rfl, rfl, rfl, rfl⟩

namespace Login

variable {w : Wire} {c : Credentials} {timeout : Option Binary64} {s : Standing}

theorem authenticate_unsent {fault : Fault}
    (h : w.loginRequest s.desk.current c timeout = .error fault) :
    (authenticate w c timeout s).result = .error fault ∧
      (authenticate w c timeout s).events = [] := by
  have hx := exchange_unsent h
  have hr : (exchange w c timeout s).result = .error fault := by rw [hx]
  rw [authenticate_of_error hr, hx]
  exact ⟨rfl, rfl⟩

/-- A login begins with its request. -/
theorem authenticate_sent {request : Request}
    (h : w.loginRequest s.desk.current c timeout = .ok request) :
    ∃ later, (authenticate w c timeout s).events = .sent .login request :: later := by
  have hx : ∃ later, (exchange w c timeout s).events = .sent .login request :: later := by
    obtain ⟨later, he, -⟩ := w.inquiryEvents_eq .login request s
    cases ha : Answer.settle (Reply.token w.codecs) s.script.head? with
    | ok token =>
      rw [exchange_won h ha, he]
      exact ⟨_, rfl⟩
    | error fault =>
      rw [exchange_failed h ha, he]
      exact ⟨_, rfl⟩
  obtain ⟨later, hx⟩ := hx
  cases hr : (exchange w c timeout s).result with
  | error fault =>
    rw [authenticate_of_error hr, hx]
    exact ⟨_, rfl⟩
  | ok token =>
    cases hk : (exchange w c timeout s).standing.desk.current.isVersionKnown with
    | true =>
      rw [authenticate_of_known hr hk, hx]
      exact ⟨_, rfl⟩
    | false =>
      rw [authenticate_of_unknown hr hk, hx]
      exact ⟨_, rfl⟩

end Login

namespace Wire

variable {w v : Wire} {s t : Session} {c : Credentials} {timeout : Option Binary64}
  {request : Request}

/-- A login shows how the gateway is verified, and the version that is asked for. -/
theorem loginRequest_negotiates (h : w.loginRequest s c timeout = .ok request) :
    request.verify = w.verify ∧
      request.headers.get? Headers.accept = some (Headers.mediaType s.version) := by
  obtain ⟨headers, url, hh, -, rfl⟩ := loginRequest_ok h
  refine ⟨rfl, ?_⟩
  rw [Authorization.ofCredentials_eq] at hh
  cases hb : Authorization.basic c.username c.password with
  | error fault => rw [hb] at hh; cases hh
  | ok value =>
    rw [hb] at hh
    cases hh
    exact ((Headers.negotiates_negotiating s.version w.defaultHeaders).put_authorization
      value).acceptEntry

/-- Whether a login can be asked for is a matter of the gateway and the credentials alone. -/
theorem loginRequest_isSome (hr : s.resolve Login.loginPath = t.resolve Login.loginPath) :
    (w.loginRequest s c timeout).toOption.isSome = (v.loginRequest t c timeout).toOption.isSome := by
  unfold loginRequest
  rw [hr, Authorization.ofCredentials_eq, Authorization.ofCredentials_eq]
  cases Authorization.basic c.username c.password with
  | error fault => rfl
  | ok value => cases t.resolve Login.loginPath <;> rfl

end Wire

/-- Settings that lead to one gateway in the same way. -/
structure Settings.SameGateway (a b : Settings) : Prop where
  endpoint : Endpoint.normalize a.endpoint = Endpoint.normalize b.endpoint
  timeout : a.timeout = b.timeout
  defaultHeaders : a.defaultHeaders = b.defaultHeaders

namespace Client

/-- Logs in and lists the systems. -/
def listing (w : Wire) (c : Credentials) : Call Json := do
  let _ ← Login.authenticate w c none
  Operation.perform w .listSystems

/-- The login comes first, if it can be asked for. -/
theorem listing_requests_head? (w : Wire) (c : Credentials) (s : Standing) :
    (Trace.requests (listing w c s).events).head? =
      (w.loginRequest s.desk.current c none).toOption := by
  cases hb : w.loginRequest s.desk.current c none with
  | error fault =>
    obtain ⟨hr, he⟩ := Login.authenticate_unsent hb
    rw [listing, Call.bind_of_error hr, he]
    rfl
  | ok request =>
    obtain ⟨later, he⟩ := Login.authenticate_sent hb
    cases hr : (Login.authenticate w c none s).result with
    | error fault =>
      rw [listing, Call.bind_of_error hr, he]
      rfl
    | ok token =>
      rw [listing, Call.bind_of_ok hr, he]
      rfl

theorem listing_twins {D : Desk → Desk → Prop} (w : Wire) (shows : Bool) (c : Credentials)
    (hD : Desk.Bisimulation D) : Call.Twins D (listing w c) (listing (w.showing shows) c) :=
  .bind (Login.authenticate_twins w shows hD none c) fun _ =>
    Operation.perform_twins w shows hD .listSystems

/-- What a client sends that is opened for nothing else. -/
def listingRequests (store : TrustStore) (codecs : Bytes.Codecs) (given : Settings)
    (c : Credentials) (script : List Answer) : List Request :=
  let client := opened store codecs none given
  Trace.requests (client.work (listing client.wire c) script).events

/-- The login of such a client. -/
def loginRequest (store : TrustStore) (codecs : Bytes.Codecs) (given : Settings)
    (c : Credentials) : Except Fault Request :=
  let client := opened store codecs none given
  client.wire.loginRequest client.desk.current c none

section Requests

variable {store : TrustStore} {codecs : Bytes.Codecs} {given a b : Settings} {c : Credentials}
  (script : List Answer)

theorem listingRequests_head? :
    (listingRequests store codecs given c script).head? =
      (loginRequest store codecs given c).toOption :=
  listing_requests_head? _ c _

theorem listingRequests_eq_nil_iff : listingRequests store codecs given c script = [] ↔
    (loginRequest store codecs given c).toOption.isSome = false := by
  rw [← listingRequests_head? script]
  cases listingRequests store codecs given c script <;> simp

theorem loginRequest_isSome (h : a.SameGateway b) :
    (loginRequest store codecs a c).toOption.isSome =
      (loginRequest store codecs b c).toOption.isSome := by
  refine Wire.loginRequest_isSome ?_
  unfold Session.resolve Endpoint.resolve
  rw [show Endpoint.normalize (opened store codecs none a).desk.current.endpoint = _
    from h.endpoint]
  rfl

theorem opened_version (store : TrustStore) (codecs : Bytes.Codecs) (given : Settings) :
    (opened store codecs none given).desk.current.version =
      if given.version.getD [] = [] then none else some (given.version.getD []) := by
  change given.version.filter (· ≠ []) = _
  cases given.version with
  | none => rfl
  | some v => by_cases hv : v = [] <;> simp [Option.filter, hv]

theorem opened_version_getD (store : TrustStore) (codecs : Bytes.Codecs) (given : Settings) :
    (opened store codecs none given).desk.current.version.getD [] = given.version.getD [] := by
  rw [opened_version]
  split
  · rename_i hv
    rw [hv]
    rfl
  · rfl

/-- Clients of one gateway that verify it alike and know the same version send the same. -/
theorem listingRequests_congr (h : a.SameGateway b)
    (hverify : a.resolvedVerify store = b.resolvedVerify store)
    (hversion : (opened store codecs none a).desk.current.version =
      (opened store codecs none b).desk.current.version) :
    listingRequests store codecs a c script = listingRequests store codecs b c script := by
  have hw : (opened store codecs none b).wire =
      (opened store codecs none a).wire.showing b.showHttp := by
    change Wire.mk (b.resolvedVerify store) b.timeout b.defaultHeaders b.showHttp codecs = _
    rw [← hverify, ← h.timeout, ← h.defaultHeaders]
    rfl
  have hout := listing_twins (opened store codecs none a).wire b.showHttp c
    Desk.bisimulation_atOneGateway ⟨(opened store codecs none a).desk, none, script, 0⟩
    ⟨(opened store codecs none b).desk, none, script, 0⟩
    ⟨⟨h.endpoint, hversion, rfl, rfl⟩, Iff.rfl, rfl, rfl⟩
  rw [← hw] at hout
  exact hout.requests_eq

/-- And only such clients do, unless they cannot even ask for the login. -/
theorem listingRequests_eq_iff (h : a.SameGateway b) :
    listingRequests store codecs a c script = listingRequests store codecs b c script ↔
      listingRequests store codecs a c script = [] ∨
        (a.resolvedVerify store = b.resolvedVerify store ∧
          a.version.getD [] = b.version.getD []) := by
  constructor
  · intro heq
    cases hf : loginRequest store codecs a c with
    | error fault => exact .inl ((listingRequests_eq_nil_iff script).mpr (by rw [hf]; rfl))
    | ok request =>
      have hfb : (loginRequest store codecs b c).toOption = some request := by
        rw [← listingRequests_head? script, ← heq, listingRequests_head?, hf]
        rfl
      -- the login of both is one request, which shows what each has read
      cases hb : loginRequest store codecs b c with
      | error fault => rw [hb] at hfb; cases hfb
      | ok other =>
        rw [hb] at hfb
        obtain rfl : other = request := Option.some.inj hfb
        obtain ⟨hva, hma⟩ := Wire.loginRequest_negotiates hf
        obtain ⟨hvb, hmb⟩ := Wire.loginRequest_negotiates hb
        have hm := Option.some.inj (hma.symm.trans hmb)
        rw [Session.mediaType_version, Session.mediaType_version, Session.negotiated_eq_iff,
          opened_version_getD, opened_version_getD] at hm
        exact .inr ⟨hva.symm.trans hvb, hm⟩
  · rintro (hnil | ⟨hverify, hversion⟩)
    · rw [hnil, eq_comm, listingRequests_eq_nil_iff, ← loginRequest_isSome h]
      exact (listingRequests_eq_nil_iff script).mp hnil
    · refine listingRequests_congr script h hverify ?_
      rw [opened_version, opened_version, hversion]

end Requests

end Client

namespace Settings

/-- What the settings make of an environment that says nothing of a timeout. -/
def read (env : Environment) : Settings where
  endpoint := (valueOf env endpointVariable).trim
  timeout := defaultTimeout
  verify := .ofBool !(flag env insecureVariable)
  useTrustStore := flag env trustStoreVariable
  version := if (valueOf env versionVariable).trim = [] then none
    else some (valueOf env versionVariable).trim
  showHttp := flag env showHttpVariable

theorem ofEnvironment_of_blank {env : Environment}
    (h : (valueOf env endpointVariable).trim = []) :
    ofEnvironment env = .error (.ofFailure missingEndpoint) := if_pos h

theorem ofEnvironment_of_not_blank {env : Environment}
    (h : (valueOf env endpointVariable).trim ≠ []) (ht : valueOf env timeoutVariable = []) :
    ofEnvironment env = .ok (read env) := by
  have hread : readTimeout (env.get? timeoutVariable) = .ok defaultTimeout := by
    unfold valueOf at ht
    cases hv : env.get? timeoutVariable with
    | none => rfl
    | some value => rw [hv] at ht; cases ht; rfl
  have hof : ofEnvironment env = (readTimeout (env.get? timeoutVariable)).map fun timeout =>
      { read env with timeout } := if_neg h
  rw [hof, hread]
  rfl

theorem resolvedVerify_ofBool {store : TrustStore} {s : Settings} {checks : Bool}
    (h : s.verify = .ofBool checks) : s.resolvedVerify store =
      if checks && s.useTrustStore then (store.path?.map Verify.against).getD .on
      else .ofBool checks := by
  unfold resolvedVerify
  rw [h]
  cases checks <;> cases s.useTrustStore <;> rfl

/-- Two ways to verify a gateway, of which the second reads a yes into some words for no. -/
theorem resolvedVerify_eq_iff (store : TrustStore) {a b : Settings}
    {yes misread trustMisread : Bool}
    (ha : a.verify = .ofBool !yes) (hb : b.verify = .ofBool !(yes || misread))
    (ht : b.useTrustStore = (a.useTrustStore || trustMisread))
    (hyes : yes = true → misread = false) (htrust : a.useTrustStore = true → trustMisread = false) :
    a.resolvedVerify store = b.resolvedVerify store ↔
      misread = false ∧ (trustMisread = true → yes = true ∨ store.path? = none) := by
  rw [resolvedVerify_ofBool ha, resolvedVerify_ofBool hb, ht]
  cases yes with
  | true =>
    -- neither checks anything
    obtain rfl := hyes rfl
    simp
  | false =>
    cases misread with
    | true => cases a.useTrustStore <;> cases store.path? <;> simp [Verify.ofBool]
    | false =>
      cases hat : a.useTrustStore with
      | true =>
        obtain rfl := htrust hat
        simp
      | false => cases trustMisread <;> cases store.path? <;> simp [Verify.ofBool]

end Settings

namespace CommandLine

open Settings (Environment)

/-- What a program of the user's own sends that opens a client by the environment, logs in and lists
the systems. Without an endpoint no client is opened. -/
def programRequests (around : Surroundings) (c : Credentials) : List Request :=
  match Settings.ofEnvironment around.environment with
  | .ok settings => Client.listingRequests around.store around.codecs settings c around.script
  | .error _ => []

/-- An environment of which both readers make the same. -/
structure ReadAlike (store : TrustStore) (env : Environment) : Prop where
  /-- More than white space. -/
  endpoint : (Settings.valueOf env Settings.endpointVariable).trim ≠ []
  /-- No white space around it. -/
  version : (Settings.valueOf env Settings.versionVariable).trim =
    Settings.valueOf env Settings.versionVariable
  insecure : Settings.saysShortNo env Settings.insecureVariable = false
  /-- A short no matters only where the gateway is verified and there is a trust store. -/
  trustStore : Settings.saysShortNo env Settings.trustStoreVariable = true →
    saysYes env .insecure = true ∨ store.path? = none

theorem requests_of_listing {around : Surroundings} {c : Credentials}
    (h : Readable around.environment c) :
    Trace.requests (run around listingWords).events =
      Client.listingRequests around.store around.codecs
        ((listingChoices around.environment c).settings
          (.ofBool !saysYes around.environment .insecure)) c around.script := by
  have hrun : run around listingWords =
      perform around .listSystems (listingChoices around.environment c) := by
    unfold run
    rw [h.understand_listing]
  obtain ⟨he, -⟩ := perform_of_job .listSystems (h.job_listing around)
  have hopening (given : Settings) : Trace.requests (Client.openingEvents given) = [] := by
    unfold Client.openingEvents
    dsimp only
    split <;> rfl
  rw [hrun, he, Trace.requests_append, Trace.requests_append, hopening, List.nil_append]
  exact List.append_nil _

section Alike

variable {around : Surroundings} {c : Credentials}

theorem listing_version (env : Environment) (c : Credentials) :
    (listingChoices env c).version.getD [] = Settings.valueOf env Settings.versionVariable := by
  change (environmental? env .version).getD [] = _
  rw [environmental?_eq env version_envName]
  split
  · rename_i hv
    exact hv.symm
  · rfl

theorem read_version (env : Environment) : (Settings.read env).version.getD [] =
    (Settings.valueOf env Settings.versionVariable).trim := by
  unfold Settings.read
  dsimp only
  split
  · rename_i hv
    exact hv.symm
  · rfl

/-- A command that lists the systems and a program that does so, set up by one environment alone,
send the same requests exactly if the environment is one of which both readers make the same, or if
the command cannot even ask for the login. -/
theorem requests_alike_iff (h : Readable around.environment c) :
    Trace.requests (run around listingWords).events = programRequests around c ↔
      Trace.requests (run around listingWords).events = [] ∨
        ReadAlike around.store around.environment := by
  rw [requests_of_listing h]
  by_cases hblank : (Settings.valueOf around.environment Settings.endpointVariable).trim = []
  · have hprogram : programRequests around c = [] := by
      rw [programRequests, Settings.ofEnvironment_of_blank hblank]
    rw [hprogram]
    exact ⟨.inl, fun halike => halike.elim id fun ha => absurd hblank ha.endpoint⟩
  · have hprogram : programRequests around c = Client.listingRequests around.store around.codecs
        (Settings.read around.environment) c around.script := by
      rw [programRequests, Settings.ofEnvironment_of_not_blank hblank h.timeout]
    obtain ⟨hinsecure, hyes⟩ := flag_eq insecure_envName h.insecure
    obtain ⟨htrust, hstore⟩ := flag_eq useCerts_envName h.useCerts
    let command := (listingChoices around.environment c).settings
      (.ofBool !saysYes around.environment .insecure)
    have hgateway : command.SameGateway (Settings.read around.environment) :=
      ⟨(Endpoint.normalize_trim _).symm, rfl, rfl⟩
    have hverify := Settings.resolvedVerify_eq_iff around.store (a := command)
      (b := Settings.read around.environment) rfl
      (congrArg (fun flag => Verify.ofBool !flag) hinsecure) htrust hyes hstore
    have hversion : command.version.getD [] =
        Settings.valueOf around.environment Settings.versionVariable :=
      listing_version around.environment c
    rw [hprogram, Client.listingRequests_eq_iff around.script hgateway, hverify, hversion, read_version]
    exact or_congr_right ⟨fun ⟨⟨hi, ht⟩, hv⟩ => ⟨hblank, hv.symm, hi, ht⟩,
      fun ha => ⟨⟨ha.insecure, ha.trustStore⟩, ha.version.symm⟩⟩

end Alike

end CommandLine

namespace Sample

/-- What lies around a command whose environment has these two words for its flags. -/
def around (insecure useCerts : Text) : CommandLine.Surroundings where
  environment :=
    [("POWERFLEX_ENDPOINT", "https://gateway"), ("POWERFLEX_USERNAME", "admin"),
      ("POWERFLEX_PASSWORD", "secret"), ("POWERFLEX_VERSION", "3.5"),
      ("POWERFLEX_INSECURE", insecure), ("POWERFLEX_USECERTS", useCerts)]
  store := { file := some "/etc/ssl/cert.pem" }
  codecs := .listed
  isThere := fun _ => false
  home? := fun _ => none
  script := [.reply { status := 200, body := Bytes.ofAscii "tok" }, .reply { status := 200 }]

theorem around_readable {insecure useCerts : Text}
    (hi : insecure = [] ∨ (CommandLine.truthValue? insecure).isSome)
    (hu : useCerts = [] ∨ (CommandLine.truthValue? useCerts).isSome) :
    CommandLine.Readable (around insecure useCerts).environment credentials where
  endpoint := rfl
  username := rfl
  password := rfl
  insecure := CommandLine.accepted_of_value CommandLine.insecure_envName hi
  useCerts := CommandLine.accepted_of_value CommandLine.useCerts_envName hu
  showHttp := fun _ h => by cases h
  certificate := rfl
  timeout := rfl

end Sample

namespace CommandLine

/-- Where the gateway is not verified, it does not matter how the trust store is misread. -/
theorem requests_alike_when_insecure :
    let around := Sample.around " YES " "f"
    Readable around.environment Sample.credentials ∧
      (Trace.requests (run around listingWords).events).length = 2 ∧
      Trace.requests (run around listingWords).events =
        programRequests around Sample.credentials := by
  intro around
  have hread : Readable around.environment Sample.credentials :=
    Sample.around_readable (by decide) (by decide)
  refine ⟨hread, by decide +kernel, (requests_alike_iff hread).mpr (.inr ?_)⟩
  exact ⟨by decide, by decide, by decide, fun _ => .inl (by decide)⟩

/-- A program takes this no for a yes, and does not verify the gateway that the command verifies. -/
theorem short_no_turns_verification_off :
    let around := Sample.around "n" ""
    Readable around.environment Sample.credentials ∧
      (Trace.requests (run around listingWords).events).map Request.verify = [.on, .on] ∧
      (programRequests around Sample.credentials).map Request.verify = [.off, .off] :=
  ⟨Sample.around_readable (by decide) (by decide), by decide +kernel, by decide +kernel⟩

end CommandLine

end StorageGateway
