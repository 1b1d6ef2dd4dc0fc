import StorageGateway.Proofs.History.Sessions
import StorageGateway.Proofs.OwnFaults.Readings

/-! What a client fails with, whatever a gateway answers. While the replies suit what is made of
them every operation keeps the session presentable and ends with a value or with a failure of the
library's own; so does every later one. -/
namespace StorageGateway

/-- How the reply to a request is made use of, where that to a resource has a reading of its own. -/
def Purpose.reading (q : Reading) : Purpose → Reading
  | login => .token
  | version => .version
  | resource => q

/-- Whether a reply that tells of success suits what is made of it. -/
def Exchange.suits (codecs : Bytes.Codecs) (q : Reading) (e : Exchange) : Bool :=
  e.reply?.all fun r => !isSuccess r.status || r.suits codecs (e.purpose.reading q)

namespace Trace

/-- All replies suit what is made of them. -/
def Suited (codecs : Bytes.Codecs) (q : Reading) (script : List Answer) (events : List Event) :
    Prop :=
  ∀ e ∈ exchanges script events, e.suits codecs q = true

instance (codecs : Bytes.Codecs) (q : Reading) (script : List Answer) (events : List Event) :
    Decidable (Suited codecs q script events) :=
  inferInstanceAs (Decidable (∀ e ∈ exchanges script events, e.suits codecs q = true))

variable {codecs : Bytes.Codecs} {q : Reading} {script : List Answer}

theorem suited_append_iff {a b : List Event} :
    Suited codecs q script (a ++ b) ↔
      Suited codecs q script a ∧ Suited codecs q (script.drop (purposes a).length) b := by
  unfold Suited
  rw [exchanges_append]
  simp only [List.mem_append]
  exact ⟨fun h => ⟨fun e he => h e (.inl he), fun e he => h e (.inr he)⟩,
    fun h e he => he.elim (h.1 e) (h.2 e)⟩

theorem suited_noted {n : Notice} {events : List Event} :
    Suited codecs q script (.noted n :: events) ↔ Suited codecs q script events := Iff.rfl

/-- The reply to a request that is sent suits what is made of it. -/
theorem Suited.reply {w : Wire} {p : Purpose} {request : Request} {s : Standing}
    (h : Suited codecs q s.script (w.inquiryEvents p request s)) {r : Reply}
    (hr : s.script.head? = some (.reply r)) (hs : isSuccess r.status = true) :
    r.suits codecs (p.reading q) = true := by
  have he := h ⟨p, request, s.script.head?⟩ (by simp)
  simpa [Exchange.suits, Exchange.reply?, hr, hs] using he

end Trace

open Trace

/-- A standing in a presentable session, with answers that raise nothing but a connection's own
errors. -/
structure Standing.Served (s : Standing) : Prop where
  session : s.desk.current.Presentable
  script : ∀ a ∈ s.script, a.IsServed

/-- An outcome with a value or an own failure, which leaves the session presentable. -/
structure Outcome.Orderly {α : Type} (o : Outcome α) : Prop where
  ends : EndsOwn o.result
  session : o.standing.desk.current.Presentable

theorem Standing.Served.after {α : Type} {s : Standing} (h : s.Served) {call : Call α}
    (hp : Call.Paced call) (ho : (call s).standing.desk.current.Presentable) :
    (call s).standing.Served where
  session := ho
  script a ha := by
    rw [hp s] at ha
    exact h.script a (List.mem_of_mem_drop ha)

theorem Standing.Served.head {s : Standing} (h : s.Served) :
    ∀ a, s.script.head? = some a → a.IsServed :=
  fun a ha => h.script a (List.mem_of_mem_head? ha)

namespace Login

variable {w : Wire} {c : Credentials} {timeout : Option Binary64} {s : Standing} {q : Reading}

theorem askVersion_orderly (h : s.Served)
    (hs : Suited w.codecs q s.script (askVersion w timeout s).events) :
    (askVersion w timeout s).Orderly := by
  cases hb : w.versionRequest s.desk.current timeout with
  | error fault =>
    rw [askVersion_unsent hb]
    exact ⟨.error (h.session.versionRequest_endsOwn w timeout fault hb), h.session⟩
  | ok request =>
    cases ha : Answer.settle (Reply.verdict (Reply.scalar w.codecs)) s.script.head? with
    | ok raw =>
      rw [askVersion_told hb ha] at hs ⊢
      obtain ⟨r, hr, hok, hraw⟩ := Answer.reply_of_settle_verdict ha
      have hsuits := (suited_append_iff.mp hs).1.reply hr hok
      have hshort : Version.HasShortNumbers (Version.extract raw) := by
        simpa [Purpose.reading, Reply.suits, hraw, Except.toOption] using
          (Bool.and_eq_true_iff.mp hsuits).2
      exact ⟨.ok _, h.session.withVersion hshort⟩
    | error fault =>
      rw [askVersion_failed hb ha] at hs ⊢
      refine ⟨.error (Answer.settle_endsOwn h.head (fun r hr hsound h0 => ?_) fault ha), ?_⟩
      · exact Reply.verdict_endsOwn hsound h0 fun hok =>
          Reply.reads_version r hsound h0 (hs.reply hr hok)
      · rw [s.next_desk]
        exact h.session

theorem discoverVersion_orderly (refresh : Bool) (h : s.Served)
    (hs : Suited w.codecs q s.script (discoverVersion w refresh timeout s).events) :
    (discoverVersion w refresh timeout s).Orderly := by
  cases refresh with
  | true =>
    rw [discoverVersion_refresh] at hs ⊢
    exact askVersion_orderly h hs
  | false =>
    cases hk : s.desk.current.isVersionKnown with
    | true =>
      rw [discoverVersion_of_known hk]
      exact ⟨.ok _, h.session⟩
    | false =>
      rw [discoverVersion_of_unknown false hk] at hs ⊢
      exact askVersion_orderly h hs

theorem exchange_orderly (h : s.Served) (hc : c.FitBytes)
    (hs : Suited w.codecs q s.script (exchange w c timeout s).events) :
    (exchange w c timeout s).Orderly := by
  obtain ⟨request, hb⟩ := h.session.exists_loginRequest w hc timeout
  cases ha : Answer.settle (Reply.token w.codecs) s.script.head? with
  | ok token =>
    rw [exchange_won hb ha] at hs ⊢
    obtain ⟨r, hr, hok, htoken⟩ := Answer.reply_of_settle_token ha
    have hsuits := (suited_append_iff.mp hs).1.reply hr hok
    have hfits : token.FitsBytes := by
      simpa [Purpose.reading, Reply.suits, htoken, Except.toOption] using
        (Bool.and_eq_true_iff.mp hsuits).2
    exact ⟨.ok _, h.session.restarted.established hfits hc⟩
  | error fault =>
    rw [exchange_failed hb ha] at hs ⊢
    refine ⟨.error (Answer.settle_endsOwn h.head (fun r hr hsound h0 => ?_) fault ha),
      h.session.restarted⟩
    exact Reply.token_endsOwn hsound h0 fun hok => (Bool.and_eq_true_iff.mp (hs.reply hr hok)).1

theorem wrapVersionFault_isOwn {fault : Fault} (h : fault.IsOwn) :
    (wrapVersionFault fault).IsOwn := by
  unfold wrapVersionFault
  split
  · rfl
  · exact h

theorem authenticate_orderly (h : s.Served) (hc : c.FitBytes)
    (hs : Suited w.codecs q s.script (authenticate w c timeout s).events) :
    (authenticate w c timeout s).Orderly := by
  cases hr : (exchange w c timeout s).result with
  | error fault =>
    rw [authenticate_of_error hr] at hs ⊢
    have ho := exchange_orderly h hc hs
    exact ⟨.error (ho.ends fault hr), ho.session⟩
  | ok token =>
    cases hk : (exchange w c timeout s).standing.desk.current.isVersionKnown with
    | true =>
      rw [authenticate_of_known hr hk] at hs ⊢
      exact ⟨.ok _, (exchange_orderly h hc hs).session⟩
    | false =>
      rw [authenticate_of_unknown hr hk] at hs ⊢
      have hp := (exchange_built w c timeout).paced
      obtain ⟨hfirst, hthen⟩ := suited_append_iff.mp hs
      rw [← hp s] at hthen
      have hserved := h.after hp (exchange_orderly h hc hfirst).session
      have ho := askVersion_orderly hserved hthen
      exact ⟨(ho.ends.mapError fun _ => wrapVersionFault_isOwn).map _, ho.session⟩

end Login

namespace Dispatch

variable {α : Type} {w : Wire} {order : Order} {reading : Reply → Except Fault α} {s : Standing}
  {q : Reading}

theorem attempt_orderly (hread : Reply.Reads w.codecs q reading) (hp : Url.IsPlain order.path)
    (h : s.Served)
    (hs : Suited w.codecs q s.script (attempt w order reading s).events) :
    (attempt w order reading s).Orderly := by
  cases hb : w.resourceRequest s.desk.current order with
  | error fault =>
    rw [attempt_unsent hb]
    exact ⟨.error (h.session.resourceRequest_endsOwn w hp fault hb), h.session⟩
  | ok request =>
    rw [attempt_sent hb] at hs ⊢
    refine ⟨Answer.settle_endsOwn h.head fun r hr hsound h0 => ?_, ?_⟩
    · exact Reply.verdict_endsOwn hsound h0 fun hok =>
        hread r hsound h0 ((suited_noted.mp hs).reply hr hok)
    · rw [s.next_desk]
      exact h.session

theorem wrapRenewalFault_isOwn {fault : Fault} (h : fault.IsOwn) :
    (wrapRenewalFault fault).IsOwn := by
  unfold wrapRenewalFault
  split
  · rfl
  · exact h

theorem withRenewal_orderly (hread : Reply.Reads w.codecs q reading) (hp : Url.IsPlain order.path)
    (timeout : Option Binary64) (h : s.Served)
    (hs : Suited w.codecs q s.script (withRenewal w timeout (attempt w order reading) s).events) :
    (withRenewal w timeout (attempt w order reading) s).Orderly := by
  have hpaced := (attempt_built w order reading).paced
  have hdesk := attempt_desk w order reading s
  obtain hw | ⟨fault, c, -, -, hc, hw⟩ := withRenewal_cases w timeout (attempt w order reading) s
  · rw [hw] at hs ⊢
    exact attempt_orderly hread hp h hs
  · -- the login finds the session and the script as the attempt has left them
    have hserved : (attempt w order reading s).standing.Served :=
      h.after hpaced (by rw [hdesk]; exact h.session)
    have hfit := hserved.session.credentials c hc
    have hlogin := (Login.authenticate_built w c timeout).paced
    obtain ⟨e, he, hw⟩ | ⟨token, -, hw⟩ := hw
    · rw [hw] at hs ⊢
      obtain ⟨-, hthen⟩ := suited_append_iff.mp hs
      rw [← hpaced s, suited_noted] at hthen
      have ho := Login.authenticate_orderly hserved hfit hthen
      exact ⟨.error (wrapRenewalFault_isOwn (ho.ends e he)), ho.session⟩
    · rw [hw] at hs ⊢
      obtain ⟨-, hthen⟩ := suited_append_iff.mp hs
      rw [← hpaced s, suited_noted, suited_append_iff, ← hlogin] at hthen
      have ho := Login.authenticate_orderly hserved hfit hthen.1
      have hagain := attempt_orderly hread hp (hserved.after hlogin ho.session) hthen.2
      exact ⟨hagain.ends, hagain.session⟩

theorem dispatch_orderly (hread : Reply.Reads w.codecs q reading) (hp : Url.IsPlain order.path)
    (h : s.Served)
    (hs : Suited w.codecs q s.script (dispatch w order reading s).events) :
    (dispatch w order reading s).Orderly := by
  cases hk : s.desk.current.isVersionKnown with
  | true =>
    rw [dispatch_of_known hk] at hs ⊢
    exact withRenewal_orderly hread hp order.timeout h hs
  | false =>
    have hpaced := (Login.askVersion_built w order.timeout).paced
    cases hr : (Login.askVersion w order.timeout s).result with
    | error fault =>
      rw [dispatch_of_untold hk hr] at hs ⊢
      have ho := Login.askVersion_orderly h hs
      exact ⟨.error (ho.ends fault hr), ho.session⟩
    | ok version =>
      rw [dispatch_of_told hk hr] at hs ⊢
      obtain ⟨hfirst, hthen⟩ := suited_append_iff.mp hs
      rw [← hpaced s] at hthen
      have hserved := h.after hpaced (Login.askVersion_orderly h hfirst).session
      have ho := withRenewal_orderly hread hp order.timeout hserved hthen
      exact ⟨ho.ends, ho.session⟩

/-- A call ends as its dispatch does, unless a recorder fails. -/
theorem run_result_cases (w : Wire) (order : Order) (reading : Reply → Except Fault α)
    (s : Standing) :
    (run w order reading s).result = (dispatch w order reading s).result ∨
      s.recorder = some .failing ∧
        (run w order reading s).result = .error (.ofMishap .recorderFailed) := by
  by_cases hf : s.recorder = some .failing
  · refine .inr ⟨hf, ?_⟩
    have hr := (dispatch_built w order reading).recorder_eq s
    rw [hf] at hr
    have hrec : (record order.operation (dispatch w order reading s).standing).result =
        .error (.ofMishap .recorderFailed) := by
      unfold record
      rw [hr]
    simp only [run, Call.always, hrec]
  · exact .inl (run_result w order reading s hf)

end Dispatch

/-- A failure of the library's own, or the fault of a recorder that fails. -/
def Fault.IsExpected (recorder : Option Recorder) (fault : Fault) : Prop :=
  fault.IsOwn ∨ recorder = some .failing ∧ fault = .ofMishap .recorderFailed

/-- An end with a value or an expected fault. -/
def EndsExpected {α : Type} (recorder : Option Recorder) (result : Except Fault α) : Prop :=
  ∀ fault, result = .error fault → fault.IsExpected recorder

theorem EndsExpected.ok {α : Type} (recorder : Option Recorder) (a : α) :
    EndsExpected recorder (.ok a) := nofun

theorem EndsOwn.expected {α : Type} {result : Except Fault α} (h : EndsOwn result)
    (recorder : Option Recorder) : EndsExpected recorder result :=
  fun fault hf => .inl (h fault hf)

theorem EndsExpected.map {α β : Type} {recorder : Option Recorder} {result : Except Fault α}
    (h : EndsExpected recorder result) (f : α → β) : EndsExpected recorder (result.map f) := by
  cases result with
  | ok a => exact .ok recorder (f a)
  | error fault =>
    intro e he
    cases he
    exact h fault rfl

theorem Dispatch.run_expected {α : Type} {w : Wire} {order : Order}
    {reading : Reply → Except Fault α} {s : Standing} {q : Reading}
    (hread : Reply.Reads w.codecs q reading) (hp : Url.IsPlain order.path) (h : s.Served)
    (hs : Suited w.codecs q s.script (run w order reading s).events) :
    EndsExpected s.recorder (run w order reading s).result ∧
      (run w order reading s).standing.desk.current.Presentable := by
  have hd : Suited w.codecs q s.script (dispatch w order reading s).events := by
    rw [run, Call.always_events] at hs
    exact (suited_append_iff.mp hs).1
  have ho := dispatch_orderly hread hp h hd
  constructor
  · obtain hr | ⟨hf, hr⟩ := run_result_cases w order reading s
    · rw [hr]
      exact ho.ends.expected s.recorder
    · rw [hr]
      intro fault he
      cases he
      exact .inr ⟨hf, rfl⟩
  · rw [run_standing]
    exact ho.session

namespace Operation

open Call

/-- How an operation reads the reply to its resource. -/
def reading : Operation → Reading
  | executeScalar _ => .word
  | version _ _ => .version
  | _ => .json

/-- Operations that bring nothing along which could not be shown: calls on plain paths, logins with
credentials that can be shown, all about the version, and what sets a part of the session. -/
def IsOrdinary : Operation → Prop
  | authenticate c _ => c.FitBytes
  | execute order | executeScalar order => Url.IsPlain order.path
  | version _ _ | discoverVersion _ _ | setRecorder _ | close | visit => True
  | recordVersion raw => Version.HasShortNumbers (Version.extract raw)
  | setToken token => token.FitsBytes
  | useSession given => given.Presentable
  | _ => False

/-- The word that a call has ended with was in a reply that suits a version. -/
theorem short_of_executeScalar {w : Wire} {order : Order} {s : Standing} {raw : Text}
    (hs : Suited w.codecs .version s.script (Dispatch.executeScalar w order s).events)
    (hr : (Dispatch.executeScalar w order s).result = .ok raw) :
    Version.HasShortNumbers (Version.extract raw) := by
  have hm : raw ∈ Trace.words w.codecs s.script (Dispatch.executeScalar w order s).events := by
    rw [Dispatch.executeScalar_words w order s hr]
    exact List.mem_singleton_self raw
  obtain ⟨e, he, hw⟩ := List.mem_filterMap.mp hm
  have hsuits := hs e he
  split at hw
  · rename_i hp
    obtain ⟨r, hf, hw⟩ := Option.bind_eq_some_iff.mp hw
    obtain ⟨hreply, hok⟩ := Option.filter_eq_some_iff.mp hf
    simp only [Exchange.suits, hreply, hp, hok, Purpose.reading, Option.all_some, Bool.not_true,
      Bool.false_or, Reply.suits, hw, Bool.and_eq_true, decide_eq_true_eq] at hsuits
    exact hsuits.2
  · cases hw

theorem perform_expected (w : Wire) {op : Operation} (ho : op.IsOrdinary) {s : Standing}
    (h : s.Served) (hs : Suited w.codecs op.reading s.script (perform w op s).events) :
    EndsExpected s.recorder (perform w op s).result ∧
      (perform w op s).standing.desk.current.Presentable := by
  cases op with
  | authenticate c timeout =>
    rw [perform, map_apply] at hs ⊢
    have hl := Login.authenticate_orderly h ho hs
    exact ⟨(hl.ends.map _).expected _, hl.session⟩
  | execute order => exact Dispatch.run_expected Reply.reads_json ho h hs
  | executeScalar order =>
    rw [perform, map_apply] at hs ⊢
    have hl : EndsExpected _ _ ∧ _ := Dispatch.run_expected Reply.reads_word ho h hs
    exact ⟨hl.1.map _, hl.2⟩
  | version refresh timeout =>
    rw [perform, map_apply] at hs ⊢
    cases hf : (refresh && s.desk.current.isVersionKnown) with
    | false =>
      rw [currentVersion_of_kept hf] at hs ⊢
      have hl := Login.discoverVersion_orderly false h hs
      exact ⟨(hl.ends.map _).expected _, hl.session⟩
    | true =>
      rw [currentVersion_of_fresh hf] at hs ⊢
      have hplain : Url.IsPlain (versionOrder timeout).path := Login.versionPath_plain
      cases hr : (Dispatch.executeScalar w (versionOrder timeout) s).result with
      | error fault =>
        rw [bind_of_error hr] at hs ⊢
        have hl := Dispatch.run_expected Reply.reads_version hplain h hs
        refine ⟨?_, hl.2⟩
        rw [← hr]
        exact hl.1.map _
      | ok raw =>
        rw [bind_of_ok hr] at hs ⊢
        have hfirst := (suited_append_iff.mp hs).1
        have hl := Dispatch.run_expected Reply.reads_version hplain h hfirst
        exact ⟨.ok _ _, hl.2.withVersion (short_of_executeScalar hfirst hr)⟩
  | discoverVersion refresh timeout =>
    rw [perform, map_apply] at hs ⊢
    have hl := Login.discoverVersion_orderly refresh h hs
    exact ⟨(hl.ends.map _).expected _, hl.session⟩
  | recordVersion raw => exact ⟨.ok _ _, h.session.withVersion ho⟩
  | setToken token => exact ⟨.ok _ _, h.session.withToken ho⟩
  | useSession given => exact ⟨.ok _ _, ho⟩
  | setRecorder recorder => exact ⟨.ok _ _, h.session⟩
  | close => exact ⟨.ok _ _, h.session⟩
  | visit => exact ⟨.ok _ _, h.session⟩
  | _ => cases ho

end Operation

theorem Version.short_of_parse {v : Text} {parsed : Option Version}
    (h : parse (some v) = .ok parsed) : HasShortNumbers v := by
  have short {digits : Text} {n : Nat} (hr : readNumber digits = .ok n) :
      digits.length ≤ Json.mostDigits := by
    unfold readNumber at hr
    split at hr
    · cases hr
    · omega
  unfold parse at h
  split at h
  · rename_i hn
    cases hn
  · rename_i hn
    cases hn
    decide
  · rename_i t _ hn
    cases hn
    dsimp only at h
    split at h
    · cases h
    · obtain ⟨major, hmajor, h⟩ := ok_of_bind h
      obtain ⟨minor, hminor, h⟩ := ok_of_bind h
      exact ⟨short hmajor, short hminor⟩

namespace Client

/-- All replies of a run suit what is made of them: where a word is read the body has a text, a
token can be shown, and the numbers of a version are not too long. -/
def Suited (c : Client) : List (Operation × List Answer) → Prop
  | [] => True
  | (op, script) :: steps =>
    Trace.Suited c.wire.codecs op.reading script (c.step op script).events ∧
      (c.after (c.step op script)).Suited steps

theorem suited_append {c : Client} {a b : List (Operation × List Answer)} :
    c.Suited (a ++ b) ↔ c.Suited a ∧ (c.leave a).Suited b := by
  induction a generalizing c with
  | nil => exact ⟨fun h => ⟨trivial, h⟩, fun h => h.2⟩
  | cons step a ih =>
    rw [List.cons_append, Suited, Suited, ih, and_assoc]
    rfl

theorem leave_presentable {c : Client} (h : c.desk.current.Presentable)
    {steps : List (Operation × List Answer)}
    (ho : ∀ step ∈ steps, step.1.IsOrdinary ∧ ∀ a ∈ step.2, a.IsServed) (hs : c.Suited steps) :
    (c.leave steps).desk.current.Presentable := by
  induction steps generalizing c with
  | nil => exact h
  | cons step steps ih =>
    obtain ⟨op, script⟩ := step
    obtain ⟨hop, hscript⟩ := ho (op, script) List.mem_cons_self
    have hl := Operation.perform_expected c.wire hop
      (s := ⟨c.desk, c.recorder, script, 0⟩) ⟨h, hscript⟩ hs.1
    exact ih hl.2 (fun step hm => ho step (List.mem_cons_of_mem _ hm)) hs.2

/-- A client that is opened at a gateway on the web, with no version or one that can be read. -/
theorem opened_presentable (store : TrustStore) (codecs : Bytes.Codecs)
    (recorder : Option Recorder) {given : Settings} (he : Endpoint.IsWeb given.endpoint)
    (hv : ∃ parsed, Version.parse given.version = .ok parsed) :
    (opened store codecs recorder given).desk.current.Presentable where
  endpoint := he
  version v hs := by
    have hf : given.version.filter (· ≠ []) = some v := hs
    obtain ⟨hg, -⟩ := Option.filter_eq_some_iff.mp hf
    obtain ⟨parsed, hp⟩ := hv
    rw [hg] at hp
    exact Version.short_of_parse hp
  token := rfl
  credentials := nofun

end Client

namespace Sample

def web : Settings := { endpoint := "https://gateway" }

theorem web_isWeb : Endpoint.IsWeb web.endpoint where
  unblank c hc := by
    have hall : web.endpoint.all (!·.isBlank) = true := by decide +kernel
    simpa using List.all_eq_true.mp hall c hc
  leads := ⟨⟨"https", "gateway"⟩, Url.leads_iff.mpr (by decide +kernel), .inr rfl, by decide⟩

/-- A login that is told a version. -/
def fullLogin : Operation × List Answer :=
  (.authenticate credentials none,
    [.reply { status := 200, body := Bytes.ofAscii "tok" },
      .reply { status := 200, body := Bytes.ofAscii "4.5" }])

/-- What is no JSON, in a character set that nobody knows. -/
def noJson : Operation × List Answer :=
  (.execute order,
    [.reply { status := 200, charset := some "bogus", body := Bytes.ofAscii "tok" }])

/-- A token in a character set that nobody knows. -/
def bogusLogin : Operation × List Answer :=
  (.authenticate credentials none,
    [.reply { status := 200, charset := some "bogus", body := Bytes.ofAscii "tok" }])

/-- A token that a gateway of unknown version cannot be shown. -/
def wideLogin : Operation × List Answer :=
  (.authenticate credentials none, [.reply { status := 200, body := [0xE4, 0xB8, 0xAD] }])

end Sample

namespace Client

open Sample

end Client

end StorageGateway
