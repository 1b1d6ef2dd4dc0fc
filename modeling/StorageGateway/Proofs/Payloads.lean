import StorageGateway.Proofs.Commands
import StorageGateway.Proofs.Json.Reading
import StorageGateway.Proofs.Json.Writing
import StorageGateway.Proofs.Renewal.Reading

/-! What a command that sends a request carries to the gateway and back. The value of the data goes
out in every request for the resource, also in one that is sent again, and the value of the reply
that delivers the resource is what is printed. -/
namespace StorageGateway

/-! The bodies of the requests that a call makes. -/

/-- The requests for a resource have this body. -/
def Trace.Carries (body : Option Bytes) (made : List Exchange) : Prop :=
  ∀ e ∈ made, e.purpose = .resource → e.request.body = body

namespace Trace.Carries

variable {body : Option Bytes} {a b : List Exchange}

theorem append (ha : Carries body a) (hb : Carries body b) : Carries body (a ++ b) :=
  fun e he => (List.mem_append.mp he).elim (ha e) (hb e)

/-- Requests for something else have no part in it. -/
theorem elsewhere {events : List Event} (h : ∀ p ∈ purposes events, p ≠ .resource)
    (script : List Answer) : Carries body (exchanges script events) :=
  fun _ he hp => absurd hp (h _ (purpose_mem_of_mem_exchanges he))

end Trace.Carries

namespace Dispatch

variable {α : Type} (w : Wire) (order : Order) (s : Standing)

theorem attempt_carries (reading : Reply → Except Fault α) : Trace.Carries order.body
    (Trace.exchanges s.script (attempt w order reading s).events) := by
  intro e he _
  rw [attempt_exchanges] at he
  obtain ⟨-, -, hb⟩ := Exchange.mem_upon.mp (Option.mem_toList.mp he)
  obtain ⟨url, headers, -, -, hr⟩ := Wire.resourceRequest_ok hb
  rw [hr]
  rfl

theorem withRenewal_carries (timeout : Option Binary64) (reading : Reply → Except Fault α) :
    Trace.Carries order.body
      (Trace.exchanges s.script (withRenewal w timeout (attempt w order reading) s).events) := by
  have hfirst := attempt_carries w order s reading
  have hpaced := (attempt_built w order reading).paced
  obtain hw | ⟨fault, c, -, -, -, hw⟩ := withRenewal_cases w timeout (attempt w order reading) s
  · rw [hw]
    exact hfirst
  · have hlogin : Trace.Carries order.body _ := .elsewhere
      (Login.authenticate_leaves w c timeout (attempt w order reading s).standing).2.2
      (attempt w order reading s).standing.script
    obtain ⟨e, -, hw⟩ | ⟨token, -, hw⟩ := hw
    · rw [hw, Trace.exchanges_append_of_paced hpaced, Trace.exchanges_noted]
      exact hfirst.append hlogin
    · rw [hw, Trace.exchanges_append_of_paced hpaced, Trace.exchanges_noted,
        Trace.exchanges_append_of_paced (Login.authenticate_built w c timeout).paced]
      exact hfirst.append (hlogin.append (attempt_carries w order _ reading))

/-- A call sends the body of its order each time that it asks for the resource. -/
theorem dispatch_carries (reading : Reply → Except Fault α) : Trace.Carries order.body
    (Trace.exchanges s.script (dispatch w order reading s).events) := by
  cases hk : s.desk.current.isVersionKnown with
  | true =>
    rw [dispatch_of_known hk]
    exact withRenewal_carries w order s order.timeout reading
  | false =>
    have hv : Trace.Carries order.body _ := .elsewhere (fun p hp => by
      rw [Login.askVersion_purposes w order.timeout s p hp]
      exact Purpose.noConfusion) s.script
    cases hr : (Login.askVersion w order.timeout s).result with
    | error fault =>
      rw [dispatch_of_untold hk hr]
      exact hv
    | ok version =>
      rw [dispatch_of_told hk hr,
        Trace.exchanges_append_of_paced (Login.askVersion_built w order.timeout).paced]
      exact hv.append (withRenewal_carries w order _ order.timeout reading)

end Dispatch

/-- An exchange that delivers the resource tells how a call ends. -/
theorem Trace.Delivers.result_eq {made : List Exchange} {result : Except Fault Reply}
    (h : Delivers made result) {e : Exchange} (he : e ∈ made) {r : Reply}
    (hr : e.delivered? = some r) : result = .ok r := by
  cases result with
  | error fault =>
    rw [h e he] at hr
    cases hr
  | ok last =>
    obtain ⟨before, x, rfl, hx, hn⟩ := h
    rcases List.mem_append.mp he with he | he
    · rw [hn e he] at hr
      cases hr
    · rw [List.mem_singleton.mp he, hx] at hr
      cases hr
      rfl

theorem Exchange.isSuccess_of_delivered {e : Exchange} {r : Reply} (h : e.delivered? = some r) :
    isSuccess r.status = true := by
  unfold delivered? at h
  split at h
  · exact (Option.filter_eq_some_iff.mp h).2
  · cases h

/-- A value in a body: null is none, and any other value is a text of it in ASCII, to be read as that
value. -/
structure Json.IsSentAs (v : Json) (body : Option Bytes) : Prop where
  absent : v = .null → body = none
  present : v ≠ .null → ∃ t, body = some (Bytes.ofAscii t) ∧ (∀ c ∈ t, c.val < 0x80) ∧
    IsTextOf v t ∧ readBytes (Bytes.ofAscii t) = .ok v

theorem Payload.isSentAs_encode {v : Json} (hv : Json.Portable v) :
    v.IsSentAs (Payload.json v).encode := by
  by_cases hn : v = .null
  · subst hn
    exact ⟨fun _ => rfl, fun h => absurd rfl h⟩
  · have hascii := (Json.isPlain_print v).isAscii
    have htext := Json.isTextOf_print hv
    refine ⟨fun h => absurd h hn, fun _ => ⟨v.print, ?_, hascii, htext, ?_⟩⟩
    · cases v with
      | null => exact absurd rfl hn
      | _ => rfl
    · rw [← Bytes.Utf8.encode_of_ascii hascii]
      exact htext.readBytes_encode hv

/-- What a whole body tells: the value that it is a text of, and null if nothing is in it. -/
inductive Reply.Tells (r : Reply) : Json → Prop where
  | blank (h : Bytes.isBlank r.body = true) : Tells r .null
  | text {v : Json} {t : Text} (hv : Json.Portable v) (ht : Json.IsTextOf v t)
      (hb : r.body = Bytes.Utf8.encode t) : Tells r v

theorem Reply.Tells.portable {r : Reply} {v : Json} (h : r.Tells v) : Json.Portable v := by
  cases h with
  | blank h => exact .null
  | text hv ht hb => exact hv

theorem Reply.Tells.json {r : Reply} {v : Json} (h : r.Tells v) (hs : isSuccess r.status = true)
    (hw : r.broken = none) : r.json = .ok v := by
  have hcontent : r.content = .ok (some r.body) := Reply.content_of_success hs hw
  cases h with
  | blank h => simp [Reply.json, hcontent, h, bind, Except.bind]
  | text hv ht hb =>
    have hread : Json.readBytes r.body = .ok v := hb ▸ ht.readBytes_encode hv
    simp [Reply.json, hcontent, Json.isBlank_of_readBytes hread, hread, bind, Except.bind,
      Except.mapError]

namespace CommandLine

/-- A run that prints a value and nothing else: a text of it in whole lines, to be read as that
value. -/
structure Run.Prints (r : Run) (v : Json) : Prop where
  exit : r.ending.status? = some 0
  once : r.acts.filter Act.isSeen = [.printed r.standardOutput]
  lines : r.standardOutput.getLast? = some CodePoint.newline
  text : Json.IsTextOf v r.standardOutput
  read : Json.read r.standardOutput = .ok v

theorem line_indented (v : Json) :
    line v.indented = v.indented ++ [CodePoint.newline] := by
  have hplain : Json.IsPlain v.indented := Json.isPlain_layOut v 0
  rw [line, Text.unstyled_of_plain hplain.escapeControl_not_mem]

theorem Choices.payload_of_job {choices : Choices} {around : Surroundings} {job : Job}
    (h : choices.job around = .ok job) : choices.payload = .ok job.payload := by
  unfold Choices.job at h
  cases hp : choices.payload with
  | error refusal => rw [hp] at h; cases h
  | ok payload =>
    cases hc : choices.credentials with
    | error refusal => rw [hp, hc] at h; cases h
    | ok credentials =>
      cases hv : choices.verification around with
      | error refusal => rw [hp, hc, hv] at h; cases h
      | ok verify => rw [hp, hc, hv] at h; cases h; rfl

theorem Choices.payload_of_isTextOf {choices : Choices} {data : Text} {v : Json}
    (h : choices.data = some data) (hv : Json.Portable v) (ht : Json.IsTextOf v data) :
    choices.payload = .ok (some (.json v)) := by
  have hread := ht.read hv
  obtain ⟨c, t, rfl, -⟩ := ht.head
  simp only [Choices.payload, h, hread]

section Requesting

variable {around : Surroundings} {choices : Choices} {job : Job} {v : Json} {e : Exchange}
  {r : Reply}

/-- The order that a command hands on. -/
def Job.order (job : Job) (choices : Choices) : Order :=
  { method := choices.method.upper, path := choices.path, payload := job.payload }

/-- The exchanges of a command are those of its work. -/
theorem perform_exchanges {command : Command} (h : choices.job around = .ok job) :
    Trace.exchanges around.script (perform around command choices).events =
      Trace.exchanges around.script (job.outcome around command choices).events := by
  have hsilent : ∀ e ∈ Client.openingEvents (Client.settingsOf job.settings),
      Trace.purpose? e = none := fun e he =>
    Trace.purpose?_of_aside (Client.openingEvents_asides _ e he)
  have hend (script : List Answer) : Trace.exchanges script [.disconnected] = [] := by
    cases script <;> rfl
  rw [perform_events h, List.append_assoc, Trace.exchanges_append,
    Trace.exchanges_of_all_silent _ hsilent, Trace.exchanges_append, hend, Trace.purposes,
    List.filterMap_eq_nil_iff.mpr hsilent]
  simp

/-- A request for the resource is one of the second call. -/
theorem Job.mem_called
    (h : e ∈ Trace.exchanges around.script (job.outcome around .request choices).events)
    (hp : e.purpose = .resource) : ∃ token, (job.login around).result = .ok token ∧
      e ∈ Trace.exchanges (job.login around).standing.script
        (Dispatch.dispatch (job.client around).wire (job.order choices) .ok
          (job.login around).standing).events := by
  let start : Standing :=
    ⟨(job.client around).desk, (job.client around).recorder, around.script, 0⟩
  let login := Login.authenticate (job.client around).wire job.credentials none
  have helsewhere : ∀ x ∈ Trace.exchanges around.script (login start).events,
      x.purpose ≠ .resource := fun x hx =>
    (Login.authenticate_leaves _ job.credentials none start).2.2 _
      (Trace.purpose_mem_of_mem_exchanges hx)
  cases hl : (job.login around).result with
  | error fault =>
    rw [outcome_of_login_error hl] at h
    exact absurd hp (helsewhere e h)
  | ok token =>
    refine ⟨token, rfl, ?_⟩
    have hpaced : Call.Paced login := (Login.authenticate_built ..).paced
    have hcalled : (job.called around .request choices).events =
        (Dispatch.run (job.client around).wire (job.order choices) .ok
          (job.login around).standing).events :=
      congrArg Outcome.events (Dispatch.run_reads _ (job.order choices) Reply.json_calm _)
    rw [outcome_of_login_ok hl] at h
    have h : e ∈ Trace.exchanges start.script ((login start).events ++
      (job.called around .request choices).events) := h
    rw [Trace.exchanges_append_of_paced hpaced, hcalled] at h
    rcases List.mem_append.mp h with h | h
    · exact absurd hp (helsewhere e h)
    · rwa [← Dispatch.run_exchanges]

theorem Job.called_of_delivered
    (he : e ∈ Trace.exchanges (job.login around).standing.script
      (Dispatch.dispatch (job.client around).wire (job.order choices) .ok
          (job.login around).standing).events) (hr : e.delivered? = some r) :
    (job.called around .request choices).result = r.json := by
  have hresult := (Dispatch.dispatch_delivers _ (job.order choices) _).result_eq he hr
  have hrecorder : (job.login around).standing.recorder ≠ some .failing := by
    have hkept : (job.login around).standing.recorder = none :=
      (Login.authenticate_built _ job.credentials none).recorder_eq _
    simp [hkept]
  have hcalled : (job.called around .request choices).result = _ :=
    congrArg Outcome.result (Dispatch.run_reads _ (job.order choices) Reply.json_calm _)
  rw [hcalled]
  simp only [Dispatch.run_result _ _ _ _ hrecorder, hresult]
  rfl

theorem perform_prints (h : choices.job around = .ok job)
    (hv : (job.outcome around .request choices).result = .ok v) (hp : Json.Portable v) :
    (perform around .request choices).Prints v := by
  obtain ⟨events, hacts⟩ := perform_shows h hv
  have hshown : (shown (display .request choices v)).2 =
      [.printed (v.indented ++ [CodePoint.newline])] := by
    rw [← line_indented v]
    rfl
  rw [hshown] at hacts
  have hout : (perform around .request choices).standardOutput =
      v.indented ++ [CodePoint.newline] := by
    simp [Run.standardOutput, hacts, List.flatMap_map]
  exact
    { exit := by rw [perform_eq h, hv]; rfl
      once := by
        rw [hout]
        simp [hacts, List.filter_map, List.filter_cons, Function.comp_def, Act.isSeen]
      lines := by simp [hout]
      text := by
        rw [hout]
        exact Json.isTextOf_indented hp
      read := by
        rw [hout]
        exact (Json.isTextOf_indented hp).read hp }

end Requesting

/-- The data of a request is a text of a value. Each request for the resource carries that value,
and the value that the whole body of a reply with success tells is printed. -/
theorem request_carries {around : Surroundings} {words : List Text} {choices : Choices}
    {data : Text} {v : Json} (h : understand around.environment words = .ok (.request, choices))
    (hd : choices.data = some data) (hv : Json.Portable v) (ht : Json.IsTextOf v data) :
    ∀ e ∈ Trace.exchanges around.script (run around words).events, e.purpose = .resource →
      v.IsSentAs e.request.body ∧ ∀ r w, e.delivered? = some r → r.broken = none → r.Tells w →
        (run around words).Prints w := by
  have hrun : run around words = perform around .request choices := by
    unfold run
    rw [h]
  intro e he hp
  rw [hrun] at he ⊢
  cases hj : choices.job around with
  | error refusal =>
    have hnone : (perform around .request choices).events = [] := by
      unfold perform
      rw [hj]
      rfl
    rw [hnone, Trace.exchanges_nil] at he
    cases he
  | ok job =>
    rw [perform_exchanges hj] at he
    obtain ⟨token, hl, he⟩ := Job.mem_called he hp
    have hpayload : job.payload = some (.json v) := by
      have hread := Choices.payload_of_isTextOf hd hv ht
      rw [Choices.payload_of_job hj] at hread
      exact Except.ok.inj hread
    have hbody : e.request.body = (Payload.json v).encode := by
      rw [Dispatch.dispatch_carries _ (job.order choices) _ .ok e he hp, Order.body, Job.order,
        hpayload]
      rfl
    refine ⟨hbody ▸ Payload.isSentAs_encode hv, fun r w hr hb htell => ?_⟩
    have hcalled := Job.called_of_delivered he hr
    rw [htell.json (Exchange.isSuccess_of_delivered hr) hb] at hcalled
    refine perform_prints hj ?_ htell.portable
    rw [Job.outcome_of_login_ok hl]
    exact hcalled

end CommandLine

namespace Sample

open Json

/-- A value with a code point above U+FFFF in a name. -/
def letter : Json := .obj [([0x1F600], .arr [.int (-12), .null])]

theorem portable_letter : Portable letter := by
  refine .obj _ (by simp [Fields.names]) ?_ ?_
  · intro f hf c hc
    rw [List.mem_singleton.mp hf] at hc
    rw [List.mem_singleton.mp hc]
    decide
  · intro f hf
    rw [List.mem_singleton.mp hf]
    refine .arr _ fun v hv => ?_
    simp only [List.mem_cons, List.not_mem_nil, or_false] at hv
    rcases hv with rfl | rfl
    · exact .int _ (by decide +kernel)
    · exact .null

/-- Such a code point as it stands, between the marks of a string. -/
def echo : Text := [CodePoint.quotation, 0x1F600, CodePoint.quotation]

theorem isTextOf_echo : IsTextOf (.str [0x1F600]) echo := by
  have hs : SpellsText [0x1F600] [0x1F600] :=
    .cons (.plain (by decide) (by decide) (by decide)) .nil
  exact ⟨[], echo, [], isGap_nil, .str hs, isGap_nil, rfl⟩

def echoReply : Reply := { status := 200, body := Bytes.Utf8.encode echo }

/-- A gateway that lets the user in and answers. -/
def echoing : CommandLine.Surroundings where
  environment :=
    [("POWERFLEX_ENDPOINT", "https://gateway"), ("POWERFLEX_USERNAME", "admin"),
      ("POWERFLEX_PASSWORD", "secret"), ("POWERFLEX_VERSION", "3.5")]
  store := {}
  codecs := .listed
  isThere := fun _ => false
  home? := fun _ => none
  script := [.reply { status := 200, body := Bytes.ofAscii ("\"token\"" : String) },
    .reply echoReply]

def requestWords : List Text := ["request", "post", "/api/letters", "--data", letter.print]

end Sample

namespace CommandLine

open Sample

theorem letter_carries : ∃ choices e,
    understand echoing.environment requestWords = .ok (.request, choices) ∧
      e ∈ Trace.exchanges echoing.script (run echoing requestWords).events ∧
      e.purpose = .resource ∧ e.delivered? = some echoReply ∧
      letter.IsSentAs e.request.body ∧
      (run echoing requestWords).Prints (.str [0x1F600]) := by
  have hunderstood : (understand echoing.environment requestWords).toOption.map
      (fun chosen => (chosen.1, chosen.2.data)) = some (.request, some letter.print) := by
    decide +kernel
  have hdelivered : (Purpose.resource, some echoReply) ∈
      (Trace.exchanges echoing.script (run echoing requestWords).events).map
        fun e => (e.purpose, e.delivered?) := by decide +kernel
  obtain ⟨e, he, hx⟩ := List.mem_map.mp hdelivered
  obtain ⟨hp, hr⟩ := Prod.mk.inj hx
  cases h : understand echoing.environment requestWords with
  | error m => rw [h] at hunderstood; cases hunderstood
  | ok chosen =>
    obtain ⟨command, choices⟩ := chosen
    rw [h] at hunderstood
    obtain ⟨rfl, hd⟩ := Prod.mk.inj (Option.some.inj hunderstood)
    obtain ⟨hsent, hprints⟩ :=
      request_carries h hd portable_letter (Json.isTextOf_print portable_letter) e he hp
    exact ⟨choices, e, rfl, he, hp, hr, hsent, hprints echoReply _ hr rfl
      (.text (.str _ fun c hc => (by rw [List.mem_singleton.mp hc]; decide)) isTextOf_echo rfl)⟩

end CommandLine

end StorageGateway
