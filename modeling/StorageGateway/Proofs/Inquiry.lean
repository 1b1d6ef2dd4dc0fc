import StorageGateway.Proofs.Exchanges
import StorageGateway.Proofs.Requests

/-! The three kinds of requests are sent in one way: the next answer of the script is taken, and a
verdict on the reply decides how the call goes on; when the request cannot be made nothing is sent.
Each call is put into this form once. -/
namespace StorageGateway

namespace Reply

variable {α : Type}

/-- What a reply comes to that is read when it tells of success and refused otherwise. -/
def verdict (reading : Reply → Except Fault α) (r : Reply) : Except Fault α :=
  if isSuccess r.status then reading r
  else r.rejection.bind fun failure => .error (.ofFailure failure)

/-- What the reply to a login comes to: the token. -/
def token (codecs : Bytes.Codecs) (r : Reply) : Except Fault Text :=
  if isSuccess r.status then
    (r.scalar codecs).bind fun token =>
      if token = [] then .error (.ofFailure (Login.missingToken r.status)) else .ok token
  else r.rejection.bind fun failure =>
    if failure.status = some unauthorizedStatus then
      .error (.wrap (Login.authenticationFailed failure) (.ofFailure failure))
    else .error (.ofFailure failure)

end Reply

/-- What an answer comes to: without a reply it is a fault. -/
def Answer.settle {α : Type} (verdict : Reply → Except Fault α) : Option Answer → Except Fault α
  | none => .error Wire.nothingLeft
  | some (.unreachable why text) => .error (Wire.noResponse why text)
  | some (.crash why text) => .error (.ofMishap (.crashed why text))
  | some (.reply r) => verdict r

/-- The standing after the next answer has been taken. -/
def Standing.next (s : Standing) : Standing :=
  match s.script with
  | [] => s
  | .reply _ :: rest => { s with script := rest, answered := s.answered + 1 }
  | _ :: rest => { s with script := rest }

namespace Standing

@[simp] theorem next_desk (s : Standing) : s.next.desk = s.desk := by
  unfold next; split <;> rfl

@[simp] theorem next_recorder (s : Standing) : s.next.recorder = s.recorder := by
  unfold next; split <;> rfl

@[simp] theorem next_script (s : Standing) : s.next.script = s.script.tail := by
  unfold next
  split
  · rename_i h; rw [h]; rfl
  · rename_i h; rw [h]; rfl
  · rename_i h; rw [h]; rfl

/-- Taking an answer leaves the desk alone, so it may be changed before or after. -/
theorem next_withDesk (s : Standing) (desk : Desk) :
    ({ s with desk } : Standing).next = { s.next with desk } := by
  obtain ⟨_, recorder, script, answered⟩ := s
  cases script with
  | nil => rfl
  | cons answer rest => cases answer <;> rfl

end Standing

namespace Wire

variable {α : Type}

/-- What is said of an exchange when exchanges are shown. -/
def exchangeNotes (w : Wire) (request : Request) (r : Reply) : List Event :=
  if w.showHttp then
    [.noted (.requestSent (Dump.request request.method request.url
        (Headers.folded request.headers) (request.body.map .bytes))),
      .noted (.replyArrived (Dump.reply r.status r.reason r.headers))]
  else []

/-- What happens when a request is sent and a reply, if one comes, is read. -/
def inquiryEvents (w : Wire) (p : Purpose) (request : Request) (s : Standing) : List Event :=
  .sent p request :: match s.script.head? with
    | some (.reply r) =>
      .answered s.answered r :: (w.exchangeNotes request r ++ [.closed s.answered])
    | _ => []

/-- A request that is sent takes the next answer, whatever that is. -/
theorem send_standing (w : Wire) (p : Purpose) (request : Request) (s : Standing) :
    (w.send p request s).standing = s.next := by
  obtain ⟨desk, recorder, script, answered⟩ := s
  cases script with
  | nil => rfl
  | cons answer rest =>
    cases answer with
    | unreachable why text => rfl
    | crash why text => rfl
    | reply r => cases h : w.showHttp <;>
        simp [send, Call.nextAnswer, deliver, showExchange, h, Standing.next]

theorem send_purposes (w : Wire) (p : Purpose) (request : Request) (s : Standing) :
    Trace.purposes (w.send p request s).events = [p] := by
  obtain ⟨desk, recorder, script, answered⟩ := s
  cases script with
  | nil => rfl
  | cons answer rest =>
    cases answer with
    | unreachable why text => rfl
    | crash why text => rfl
    | reply r => cases h : w.showHttp <;>
        simp [send, Call.nextAnswer, deliver, showExchange, h, Trace.purposes, Trace.purpose?]

/-- Sends a request; the verdict on the reply is the result. -/
def inquire (w : Wire) (p : Purpose) (request : Request) (verdict : Reply → Except Fault α) :
    Call α := do
  let delivery ← w.send p request
  delivery.read verdict

theorem inquire_apply (w : Wire) (p : Purpose) (request : Request)
    (verdict : Reply → Except Fault α) (s : Standing) :
    w.inquire p request verdict s =
      ⟨Answer.settle verdict s.script.head?, w.inquiryEvents p request s, s.next⟩ := by
  obtain ⟨desk, recorder, script, answered⟩ := s
  cases script with
  | nil => rfl
  | cons answer rest =>
    cases answer with
    | unreachable why text => rfl
    | crash why text => rfl
    | reply r =>
      cases h : w.showHttp with
      | true => simp [inquire, send, Call.nextAnswer, deliver, showExchange, h, inquiryEvents,
          exchangeNotes, Delivery.read, Answer.settle, Standing.next]
      | false => simp [inquire, send, Call.nextAnswer, deliver, h, inquiryEvents,
          exchangeNotes, Delivery.read, Answer.settle, Standing.next]

/-- The request comes first; nothing is sent after it, and no token is turned down. -/
theorem inquiryEvents_eq (w : Wire) (p : Purpose) (request : Request) (s : Standing) :
    ∃ later, w.inquiryEvents p request s = .sent p request :: later ∧
      ∀ e ∈ later, Trace.purpose? e = none ∧ e ≠ .noted .tokenRejected := by
  refine ⟨_, rfl, ?_⟩
  intro e he
  split at he
  · simp only [exchangeNotes, List.mem_cons, List.mem_append, List.not_mem_nil, or_false] at he
    rcases he with rfl | he | rfl
    · exact ⟨rfl, Event.noConfusion⟩
    · split at he
      · simp only [List.mem_cons, List.not_mem_nil, or_false] at he
        rcases he with rfl | rfl
        · exact ⟨rfl, by simp⟩
        · exact ⟨rfl, by simp⟩
      · cases he
    · exact ⟨rfl, Event.noConfusion⟩
  · cases he

@[simp] theorem purposes_inquiryEvents (w : Wire) (p : Purpose) (request : Request) (s : Standing) :
    Trace.purposes (w.inquiryEvents p request s) = [p] := by
  obtain ⟨later, he, hl⟩ := w.inquiryEvents_eq p request s
  rw [he, Trace.purposes_cons, Trace.purposes,
    List.filterMap_eq_nil_iff.mpr fun e he => (hl e he).1]
  rfl

/-- A request and what is said around its reply make one exchange. -/
@[simp] theorem exchanges_inquiryEvents (w : Wire) (p : Purpose) (request : Request) (s : Standing)
    (script : List Answer) :
    Trace.exchanges script (w.inquiryEvents p request s) = [⟨p, request, script.head?⟩] := by
  obtain ⟨later, he, hl⟩ := w.inquiryEvents_eq p request s
  rw [he, Trace.exchanges_sent, Trace.exchanges_of_all_silent _ fun e he => (hl e he).1]

end Wire

namespace Delivery

variable {α β : Type}

/-- Reading or rejecting a reply by its status is reading it with one verdict. -/
theorem read_or_reject (d : Delivery) (reading : Reply → Except Fault α) :
    (if isSuccess d.reply.status then d.read reading else d.reject) =
      d.read (Reply.verdict reading) := by
  funext s
  cases h : isSuccess d.reply.status with
  | true => simp [read, Reply.verdict, h]
  | false =>
    cases hr : d.reply.rejection with
    | ok failure => simp [reject, read, Reply.verdict, h, hr, Except.bind]
    | error fault => simp [reject, read, Reply.verdict, h, hr, Except.bind]

/-- The same with more to do after the reading. -/
theorem read_verdict (d : Delivery) (reading : Reply → Except Fault α) (next : α → Call β) :
    (if isSuccess d.reply.status then d.read reading >>= next else d.reject) =
      d.read (Reply.verdict reading) >>= next := by
  rw [← read_or_reject]
  split
  · rfl
  · funext s
    cases hr : d.reply.rejection with
    | ok failure => simp [reject, read, hr]
    | error fault => simp [reject, read, hr]

/-- The same for the reply to a login, which must hold a token. -/
theorem read_token (codecs : Bytes.Codecs) (d : Delivery) (next : Text → Call β) :
    (if isSuccess d.reply.status then
      d.read (Reply.scalar codecs) >>= fun token =>
        if token = [] then Call.fail (.ofFailure (Login.missingToken d.reply.status))
        else next token
     else Login.rejectLogin d) = d.read (Reply.token codecs) >>= next := by
  funext s
  cases h : isSuccess d.reply.status with
  | true =>
    cases ht : d.reply.scalar codecs with
    | error fault => simp [read, Reply.token, h, ht, Except.bind]
    | ok token =>
      by_cases he : token = []
      · simp [read, Reply.token, h, ht, he, Except.bind]
      · simp [read, Reply.token, h, ht, he, Except.bind]
  | false =>
    cases hr : d.reply.rejection with
    | error fault => simp [Login.rejectLogin, read, Reply.token, h, hr, Except.bind]
    | ok failure =>
      by_cases hs : failure.status = some unauthorizedStatus
      · simp [Login.rejectLogin, read, Reply.token, h, hr, hs, Except.bind]
      · simp [Login.rejectLogin, read, Reply.token, h, hr, hs, Except.bind]

end Delivery

namespace Dispatch

variable {α : Type} {w : Wire} {order : Order} {reading : Reply → Except Fault α} {s : Standing}

theorem attempt_unsent {fault : Fault}
    (h : w.resourceRequest s.desk.current order = .error fault) :
    attempt w order reading s = ⟨.error fault, [], s⟩ := by
  obtain hu | ⟨url, hu, hh⟩ := Wire.resourceRequest_error h
  · simp [attempt, hu]
  · simp [attempt, hu, hh]

theorem attempt_sent {request : Request}
    (h : w.resourceRequest s.desk.current order = .ok request) :
    attempt w order reading s =
      ⟨Answer.settle (Reply.verdict reading) s.script.head?,
        .noted (.calling request.method.upper request.url) :: w.inquiryEvents .resource request s,
        s.next⟩ := by
  obtain ⟨url, headers, hu, hh, rfl⟩ := Wire.resourceRequest_ok h
  have ha : attempt w order reading s = (Call.note (.calling order.method.upper url) >>=
      fun _ => w.inquire .resource (w.request order.method url headers order.params order.body
        order.timeout) (Reply.verdict reading)) s := by
    simp only [attempt, Call.bind_apply, Call.session_apply, Call.continue?_ok,
      Call.ofExcept_apply, hu, hh, Call.note_apply, Wire.inquire, Delivery.read_or_reject,
      List.nil_append]
  rw [ha, Call.bind_apply, Call.note_apply, Call.continue?_ok, Wire.inquire_apply]
  rfl

/-- Without a rejected token, or without credentials, nothing follows a call that may be renewed. -/
theorem withRenewal_of_alone {timeout : Option Binary64} {call : Call α}
    (h : ∀ fault, (call s).result = .error fault → isUnauthorized fault = true →
      (call s).standing.desk.current.credentials = none) :
    withRenewal w timeout call s = call s := by
  unfold withRenewal
  cases hr : (call s).result with
  | ok a => exact Call.rescue_of_ok hr
  | error fault =>
    rw [Call.rescue_of_error hr, Call.bind_apply, Call.session_apply, Call.continue?_ok]
    cases hu : isUnauthorized fault with
    | false => simp [← hr]
    | true => simp [h fault hr hu, ← hr]

section Rejected

variable {timeout : Option Binary64} {call : Call α} {fault : Fault} {c : Credentials}

/-- With a rejected token and credentials a login attempt follows, and the call once more if it
succeeds. -/
theorem withRenewal_of_rejected (h : (call s).result = .error fault)
    (hu : isUnauthorized fault = true)
    (hc : (call s).standing.desk.current.credentials = some c) :
    let login := Login.authenticate w c timeout (call s).standing
    withRenewal w timeout call s = match login.result with
      | .ok _ =>
        let again := call login.standing
        ⟨again.result, (call s).events ++ .noted .tokenRejected :: (login.events ++ again.events),
          again.standing⟩
      | .error e => ⟨.error (wrapRenewalFault e),
          (call s).events ++ .noted .tokenRejected :: login.events, login.standing⟩ := by
  intro login
  unfold withRenewal
  rw [Call.rescue_of_error h, Call.bind_apply, Call.session_apply, Call.continue?_ok]
  simp only [hu, hc, Call.bind_apply, Call.note_apply, Call.continue?_ok, List.nil_append,
    List.singleton_append]
  cases hl : login.result with
  | ok token => simp only [Call.mapFault_apply, login, hl, Call.mapError_ok, Call.continue?]
  | error e => simp only [Call.mapFault_apply, login, hl, Call.mapError_error, Call.continue?]

theorem withRenewal_of_lost {e : Fault} (h : (call s).result = .error fault)
    (hu : isUnauthorized fault = true)
    (hc : (call s).standing.desk.current.credentials = some c)
    (hl : (Login.authenticate w c timeout (call s).standing).result = .error e) :
    let login := Login.authenticate w c timeout (call s).standing
    withRenewal w timeout call s = ⟨.error (wrapRenewalFault e),
      (call s).events ++ .noted .tokenRejected :: login.events, login.standing⟩ := by
  have hw := @withRenewal_of_rejected α w s timeout call fault c h hu hc
  simpa only [hl] using hw

theorem withRenewal_of_won {token : Text} (h : (call s).result = .error fault)
    (hu : isUnauthorized fault = true)
    (hc : (call s).standing.desk.current.credentials = some c)
    (hl : (Login.authenticate w c timeout (call s).standing).result = .ok token) :
    let login := Login.authenticate w c timeout (call s).standing
    let again := call login.standing
    withRenewal w timeout call s = ⟨again.result,
      (call s).events ++ .noted .tokenRejected :: (login.events ++ again.events),
      again.standing⟩ := by
  have hw := @withRenewal_of_rejected α w s timeout call fault c h hu hc
  simpa only [hl] using hw

end Rejected

/-- All that a renewal can do. -/
theorem withRenewal_cases (w : Wire) (timeout : Option Binary64) (call : Call α) (s : Standing) :
    withRenewal w timeout call s = call s ∨
    ∃ fault c, (call s).result = .error fault ∧ isUnauthorized fault = true ∧
      (call s).standing.desk.current.credentials = some c ∧
      let login := Login.authenticate w c timeout (call s).standing
      let again := call login.standing
      (∃ e, login.result = .error e ∧
        withRenewal w timeout call s = ⟨.error (wrapRenewalFault e),
          (call s).events ++ .noted .tokenRejected :: login.events, login.standing⟩) ∨
      ∃ token, login.result = .ok token ∧
        withRenewal w timeout call s = ⟨again.result,
          (call s).events ++ .noted .tokenRejected :: (login.events ++ again.events),
          again.standing⟩ := by
  cases hr : (call s).result with
  | ok a =>
    refine .inl (withRenewal_of_alone fun fault h _ => ?_)
    rw [hr] at h
    cases h
  | error fault =>
    cases hc : (call s).standing.desk.current.credentials with
    | none => exact .inl (withRenewal_of_alone fun _ _ _ => hc)
    | some c =>
      cases hu : isUnauthorized fault with
      | false =>
        refine .inl (withRenewal_of_alone fun fault' h hu' => ?_)
        rw [hr] at h
        cases h
        rw [hu] at hu'
        cases hu'
      | true =>
        refine .inr ⟨fault, c, rfl, hu, rfl, ?_⟩
        intro login again
        cases hl : login.result with
        | error e => exact .inl ⟨e, rfl, withRenewal_of_lost hr hu hc hl⟩
        | ok token => exact .inr ⟨token, rfl, withRenewal_of_won hr hu hc hl⟩

end Dispatch

namespace Login

variable {w : Wire} {timeout : Option Binary64} {c : Credentials} {s : Standing}

@[simp] theorem recordVersion_apply (raw : Text) (s : Standing) :
    recordVersion raw s = ⟨.ok (Version.extract raw),
      [.noted (.versionResolved (Version.extract raw) raw)],
      { s with desk := s.desk.setVersion (some (Version.extract raw)) }⟩ := rfl

theorem askVersion_unsent {fault : Fault}
    (h : w.versionRequest s.desk.current timeout = .error fault) :
    askVersion w timeout s = ⟨.error fault, [], s⟩ := by
  obtain hh | ⟨headers, hh, hu⟩ := Wire.versionRequest_error h
  · simp [askVersion, hh]
  · simp [askVersion, hh, hu]

theorem askVersion_sent {request : Request}
    (h : w.versionRequest s.desk.current timeout = .ok request) :
    askVersion w timeout s =
      (w.inquire .version request (Reply.verdict (Reply.scalar w.codecs)) >>= recordVersion) s := by
  obtain ⟨headers, url, hh, hu, rfl⟩ := Wire.versionRequest_ok h
  rw [Wire.inquire, Call.bind_assoc]
  simp only [askVersion, Call.bind_apply, Call.session_apply, Call.continue?_ok,
    Call.ofExcept_apply, hh, hu, Delivery.read_verdict, List.nil_append]

/-- The version that was told is kept. -/
theorem askVersion_told {request : Request} {raw : Text}
    (h : w.versionRequest s.desk.current timeout = .ok request)
    (ha : Answer.settle (Reply.verdict (Reply.scalar w.codecs)) s.script.head? = .ok raw) :
    askVersion w timeout s = ⟨.ok (Version.extract raw),
      w.inquiryEvents .version request s ++
        [.noted (.versionResolved (Version.extract raw) raw)],
      { s.next with desk := s.desk.setVersion (some (Version.extract raw)) }⟩ := by
  rw [askVersion_sent h, Call.bind_apply, Wire.inquire_apply, ha]
  simp

theorem askVersion_failed {request : Request} {fault : Fault}
    (h : w.versionRequest s.desk.current timeout = .ok request)
    (ha : Answer.settle (Reply.verdict (Reply.scalar w.codecs)) s.script.head? = .error fault) :
    askVersion w timeout s = ⟨.error fault, w.inquiryEvents .version request s, s.next⟩ := by
  rw [askVersion_sent h, Call.bind_apply, Wire.inquire_apply, ha]
  rfl

theorem discoverVersion_of_known (h : s.desk.current.isVersionKnown = true) :
    discoverVersion w false timeout s = ⟨.ok (s.desk.current.version.getD []), [], s⟩ := by
  simp [discoverVersion, h]

theorem discoverVersion_of_unknown (refresh : Bool) (h : s.desk.current.isVersionKnown = false) :
    discoverVersion w refresh timeout s = askVersion w timeout s := by
  simp [discoverVersion, h]

theorem discoverVersion_refresh : discoverVersion w true timeout s = askVersion w timeout s := by
  simp [discoverVersion]

/-- A login attempt begins with a session without a token, also when nothing is sent then. -/
theorem exchange_unsent {fault : Fault}
    (h : w.loginRequest s.desk.current c timeout = .error fault) :
    exchange w c timeout s = ⟨.error fault, [], { s with desk := s.desk.start }⟩ := by
  obtain hh | ⟨headers, hh, hu⟩ := Wire.loginRequest_error h
  · simp [exchange, Desk.start, hh]
  · have hr : s.desk.current.restarted.resolve loginPath = .error fault := hu
    simp [exchange, Desk.start, hh, hr]

theorem exchange_sent {request : Request}
    (h : w.loginRequest s.desk.current c timeout = .ok request) :
    exchange w c timeout s =
      (w.inquire .login request (Reply.token w.codecs) >>= fun token => do
        Call.changeDesk (·.establish token c)
        Call.note (.authenticated c.username)
        return token) { s with desk := s.desk.start } := by
  obtain ⟨headers, url, hh, hu, rfl⟩ := Wire.loginRequest_ok h
  have hr : s.desk.current.restarted.resolve loginPath = .ok url := hu
  rw [Wire.inquire, Call.bind_assoc]
  simp only [exchange, Call.bind_apply, Call.session_apply, Call.changeDesk_apply,
    Call.continue?_ok, Call.ofExcept_apply, Desk.start, Session.restarted_version, hh, hr,
    Delivery.read_token, List.nil_append]

theorem exchange_won {request : Request} {token : Text}
    (h : w.loginRequest s.desk.current c timeout = .ok request)
    (ha : Answer.settle (Reply.token w.codecs) s.script.head? = .ok token) :
    exchange w c timeout s = ⟨.ok token,
      w.inquiryEvents .login request s ++ [.noted (.authenticated c.username)],
      { s.next with desk := s.desk.start.establish token c }⟩ := by
  rw [exchange_sent h, Call.bind_apply, Wire.inquire_apply, Standing.next_withDesk]
  simp only [ha, Call.continue?_ok, Call.bind_apply, Call.changeDesk_apply, Call.note_apply,
    Call.pure_apply, List.append_nil, List.nil_append]
  rfl

theorem exchange_failed {request : Request} {fault : Fault}
    (h : w.loginRequest s.desk.current c timeout = .ok request)
    (ha : Answer.settle (Reply.token w.codecs) s.script.head? = .error fault) :
    exchange w c timeout s =
      ⟨.error fault, w.inquiryEvents .login request s, { s.next with desk := s.desk.start }⟩ := by
  rw [exchange_sent h, Call.bind_apply, Wire.inquire_apply, Standing.next_withDesk]
  simp only [ha, Call.continue?_error]
  rfl

theorem authenticate_of_error {fault : Fault} (h : (exchange w c timeout s).result = .error fault) :
    authenticate w c timeout s =
      ⟨.error fault, (exchange w c timeout s).events, (exchange w c timeout s).standing⟩ :=
  Call.bind_of_error h

theorem authenticate_of_known {token : Text} (h : (exchange w c timeout s).result = .ok token)
    (hk : (exchange w c timeout s).standing.desk.current.isVersionKnown = true) :
    authenticate w c timeout s =
      ⟨.ok token, (exchange w c timeout s).events, (exchange w c timeout s).standing⟩ := by
  rw [authenticate, Call.bind_of_ok h]
  simp only [Call.bind_apply, Call.session_apply, Call.continue?_ok, hk, if_true, Call.pure_apply,
    List.append_nil]

/-- Without a version the one that was just asked for decides how the login ends. -/
theorem authenticate_of_unknown {token : Text} (h : (exchange w c timeout s).result = .ok token)
    (hk : (exchange w c timeout s).standing.desk.current.isVersionKnown = false) :
    let o := askVersion w timeout (exchange w c timeout s).standing
    authenticate w c timeout s =
      ⟨(o.result.mapError wrapVersionFault).map fun _ => token,
        (exchange w c timeout s).events ++ o.events, o.standing⟩ := by
  intro o
  have hd : discoverVersion w false timeout (exchange w c timeout s).standing = o :=
    discoverVersion_of_unknown false hk
  rw [authenticate, Call.bind_of_ok h]
  simp only [Call.bind_apply, Call.session_apply, Call.continue?_ok, hk, Bool.false_eq_true,
    if_false, List.nil_append]
  rw [Call.mapFault_apply, hd]
  cases hr : o.result with
  | ok version => simp [Except.map]
  | error fault => simp [Except.map]

end Login

namespace Dispatch

variable {α : Type} {w : Wire} {order : Order} {reading : Reply → Except Fault α} {s : Standing}

theorem dispatch_of_known (h : s.desk.current.isVersionKnown = true) :
    dispatch w order reading s = withRenewal w order.timeout (attempt w order reading) s := by
  simp only [dispatch, Call.bind_apply, Call.session_apply, Call.continue?_ok, h, if_true,
    List.nil_append]

theorem dispatch_of_unknown (h : s.desk.current.isVersionKnown = false) :
    dispatch w order reading s = (Login.askVersion w order.timeout >>= fun _ =>
      withRenewal w order.timeout (attempt w order reading)) s := by
  simp only [dispatch, Call.bind_apply, Call.session_apply, Call.continue?_ok, h,
    Bool.false_eq_true, if_false, List.nil_append, Login.discoverVersion_of_unknown false h]

/-- Without a version nothing is tried. -/
theorem dispatch_of_untold {fault : Fault} (h : s.desk.current.isVersionKnown = false)
    (hr : (Login.askVersion w order.timeout s).result = .error fault) :
    let o := Login.askVersion w order.timeout s
    dispatch w order reading s = ⟨.error fault, o.events, o.standing⟩ := by
  intro o
  rw [dispatch_of_unknown h, Call.bind_of_error hr]

theorem dispatch_of_told {version : Text} (h : s.desk.current.isVersionKnown = false)
    (hr : (Login.askVersion w order.timeout s).result = .ok version) :
    let o := Login.askVersion w order.timeout s
    let renewed := withRenewal w order.timeout (attempt w order reading) o.standing
    dispatch w order reading s =
      ⟨renewed.result, o.events ++ renewed.events, renewed.standing⟩ := by
  intro o renewed
  rw [dispatch_of_unknown h, Call.bind_of_ok hr]

/-- A recorder hears only what has ended. -/
theorem record_silent (operation : Text) (s : Standing) :
    ∀ e ∈ (record operation s).events, Trace.purpose? e = none := by
  obtain ⟨desk, recorder, script, answered⟩ := s
  intro e he
  cases recorder with
  | none => cases he
  | some r =>
    cases r with
    | keeping => cases List.mem_singleton.mp he; rfl
    | failing => cases List.mem_singleton.mp he; rfl

@[simp] theorem record_standing (operation : Text) (s : Standing) :
    (record operation s).standing = s := by
  obtain ⟨desk, recorder, script, answered⟩ := s
  cases recorder with
  | none => rfl
  | some r => cases r <;> rfl

@[simp] theorem record_purposes (operation : Text) (s : Standing) :
    Trace.purposes (record operation s).events = [] :=
  List.filterMap_eq_nil_iff.mpr (record_silent operation s)

end Dispatch

end StorageGateway
