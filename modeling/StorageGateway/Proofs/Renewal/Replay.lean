import Mathlib.Data.List.Basic
import StorageGateway.Proofs.Headers.Effective
import StorageGateway.Proofs.Renewal.Twice
import StorageGateway.Proofs.Versions.Known

/-! The request that is sent again. It is the first one with the token that was won in between, and
it negotiates the version of the first unless that was taken for known after an empty word. -/
namespace StorageGateway

open Exchange

namespace Session

variable (codecs : Bytes.Codecs) (s : Session) (e : Option Exchange)

@[simp] theorem renewed_endpoint : (s.renewed codecs e).endpoint = s.endpoint := by
  unfold renewed
  split <;> rfl

@[simp] theorem renewed_version : (s.renewed codecs e).version = s.version := by
  unfold renewed
  split <;> rfl

theorem renewed_token {token : Text} (h : e.bind (token? codecs) = some token) :
    (s.renewed codecs e).token = token := by
  rw [renewed, h]
  rfl

theorem version_of_unknown {s : Session} (h : s.isVersionKnown = false) :
    s.version.getD [] = [] := by
  unfold isVersionKnown at h
  split at h
  · rename_i hv; rw [hv]; rfl
  · rename_i hv; rw [hv]; rfl
  · cases h

theorem withVersion_version (version : Text) :
    (s.withVersion (some version)).version.getD [] = version := by
  by_cases hv : version = []
  · subst hv
    rfl
  · simp [withVersion, Option.filter, hv]

/-- The media type tells the versions of two sessions apart. -/
theorem negotiated_eq_iff (s t : Session) :
    s.negotiated = t.negotiated ↔ s.version.getD [] = t.version.getD [] := by
  unfold negotiated
  dsimp only
  rw [List.append_cancel_left_eq]
  by_cases hs : s.version.getD [] = []
  · by_cases ht : t.version.getD [] = []
    · simp [hs, ht]
    · rw [if_pos hs, if_neg ht, hs]
      refine iff_of_false (fun h => ?_) (fun h => ht h.symm)
      cases h
  · by_cases ht : t.version.getD [] = []
    · rw [if_neg hs, if_pos ht, ht]
      refine iff_of_false (fun h => ?_) hs
      cases h
    · rw [if_neg hs, if_neg ht, List.append_cancel_left_eq]

end Session

/-- Requests for one resource from two sessions at one gateway differ in headers that requests set
by themselves, and in nothing else. -/
theorem Wire.resourceRequest_alike {w : Wire} {order : Order} {s t : Session} {a b : Request}
    (he : t.endpoint = s.endpoint) (ha : w.resourceRequest s order = .ok a)
    (hb : w.resourceRequest t order = .ok b) :
    b = { a with headers := b.headers } ∧ b.headers.unset = a.headers.unset := by
  refine ⟨?_, ?_⟩
  · obtain ⟨url, headers, hu, -, rfl⟩ := resourceRequest_ok ha
    obtain ⟨url', headers', hu', -, rfl⟩ := resourceRequest_ok hb
    have hr : t.resolve order.path = s.resolve order.path := by rw [Session.resolve, he]; rfl
    rw [hr, hu] at hu'
    cases hu'
    rfl
  · rw [Session.headers_unset (headers_of_resourceRequest ha),
      Session.headers_unset (headers_of_resourceRequest hb)]

theorem Exchange.Happens.version_words {codecs : Bytes.Codecs} {due : Prop}
    {built : Except Fault Request} {e : Option Exchange} (h : Happens .version due built e) :
    e.toList.filterMap (wordFor codecs .version) = (e.bind (word? codecs)).toList := by
  cases e with
  | none => rfl
  | some e =>
    have hw : wordFor codecs .version e = e.word? codecs := if_pos h.2.1
    cases hr : e.word? codecs with
    | none => simp [hw, hr]
    | some raw => simp [hw, hr]

namespace Replay.Follows

variable {r : Replay} {w : Wire} {order : Order} {s left : Session}

/-- What was told of the version came before the first request and after the login. -/
theorem version_words (h : r.Follows w order s left) (hf : r.first.purpose = .resource)
    (hs : r.second.purpose = .resource) :
    r.word.filterMap (wordFor w.codecs .version) =
      (r.leading.bind (word? w.codecs)).toList ++ (r.inner.bind (word? w.codecs)).toList := by
  have none_of_ne {e : Exchange} (he : e.purpose ≠ .version) :
      wordFor w.codecs .version e = none := if_neg he
  have hfirst := none_of_ne (e := r.first) (by rw [hf]; exact Purpose.noConfusion)
  have hlogin := none_of_ne (e := r.login) (by rw [h.renews.login]; exact Purpose.noConfusion)
  have hsecond := none_of_ne (e := r.second) (by rw [hs]; exact Purpose.noConfusion)
  rw [word, List.filterMap_append, h.leading.version_words, List.filterMap_cons_none hfirst,
    List.filterMap_cons_none hlogin, List.filterMap_append, h.renews.inner.version_words,
    List.filterMap_cons_none hsecond, List.filterMap_nil, List.append_nil]

/-- A first request that goes out without a version comes after an empty word for it. -/
theorem leading_of_unknown (h : r.Follows w order s left)
    (hk : (s.told w.codecs r.leading).isVersionKnown = false) :
    r.leading.bind (word? w.codecs) = some [] := by
  cases hl : r.leading.bind (word? w.codecs) with
  | none =>
    have hs : s.told w.codecs r.leading = s := by rw [Session.told, hl]
    have hready := h.ready
    rw [← hs, hk, hl] at hready
    simp at hready
  | some raw =>
    have hs : s.told w.codecs r.leading = s.withVersion (some (Version.extract raw)) := by
      rw [Session.told, hl]
    by_cases hraw : raw = []
    · rw [hraw]
    · have hv := Session.isVersionKnown_of_eq hraw (s.withVersion_extract hraw)
      rw [← hs, hk] at hv
      cases hv

/-- The session of the second request has another version than that of the first exactly if the
first was made after an empty word and the second after one that is not empty. -/
theorem version_eq_iff (h : r.Follows w order s left) :
    left.version.getD [] = (s.told w.codecs r.leading).version.getD [] ↔
      ∀ raw, (r.leading.bind (word? w.codecs)).toList ++
        (r.inner.bind (word? w.codecs)).toList = [[], raw] →
        raw = [] := by
  rw [h.renews.leaves]
  cases hk : (s.told w.codecs r.leading).isVersionKnown with
  | true =>
    have hn : r.inner = none := h.renews.inner.not_of_not_due (by simp [hk])
    rw [hn]
    refine iff_of_true (by simp) fun raw hw => ?_
    cases hl : r.leading.bind (word? w.codecs) <;> rw [hl] at hw <;> cases hw
  | false =>
    obtain ⟨raw, hinner⟩ : ∃ raw, r.inner.bind (word? w.codecs) = some raw := by
      refine Option.isSome_iff_exists.mp ?_
      simpa [hk] using h.renews.ready
    rw [Session.told, hinner, h.leading_of_unknown hk, Session.version_of_unknown hk]
    dsimp only
    rw [Session.withVersion_version, Version.extract_eq_nil_iff]
    simp

end Replay.Follows

namespace Sample

/-- A client without a version, whose gateway says nothing when it is asked for it, and tells it
after the login. -/
def unsettled : Standing where
  desk := { current := { (stale []).desk.current with version := none } }
  recorder := none
  script :=
    [.reply { status := 200 }, .reply { status := 401 },
      .reply { status := 200, body := Bytes.ofAscii "tok" },
      .reply { status := 200, body := Bytes.ofAscii "4.0" }, .reply { status := 200 }]
  answered := 0

end Sample

namespace Dispatch

variable {α : Type} {w : Wire} {order : Order} {reading : Reply → Except Fault α} {s : Standing}
  {first second : Exchange}

/-- A request that is sent again is the first one but for the headers that requests set by
themselves, and shows the token that the login in between has won, in the style of the version that
the session has then and keeps to the end. -/
theorem replay_shows_new_token
    (h : Trace.attempts s.script (run w order reading s).events = [first, second]) :
    let o := run w order reading s
    let left := o.standing.desk.current
    second.request = { first.request with headers := second.request.headers } ∧
      second.request.headers.unset = first.request.headers.unset ∧
      w.resourceRequest left order = .ok second.request ∧
      ∃ before login after token value,
        Trace.exchanges s.script o.events = before ++ first :: login :: (after ++ [second]) ∧
        (∀ e ∈ before ++ after, e.purpose = .version) ∧
        login.purpose = .login ∧ login.token? w.codecs = some token ∧ token ≠ [] ∧
        second.request.headers.get? Headers.authorization = some value ∧
        Authorization.Presents token left.version value := by
  intro o left
  obtain ⟨r, rfl, rfl, hx, hr⟩ := run_twice w order s h
  obtain ⟨token, ht⟩ := Option.isSome_iff_exists.mp hr.renews.won
  have hne : token ≠ [] := by simpa using (Option.filter_eq_some_iff.mp ht).2
  have hleft : left = _ := hr.renews.leaves
  have hendpoint : left.endpoint = (s.desk.current.told w.codecs r.leading).endpoint := by
    rw [hleft, Session.told_endpoint, Session.renewed_endpoint]
  have htoken : left.token = token := by
    rw [hleft, Session.told_token, Session.renewed_token _ _ (some r.login) ht]
  obtain ⟨hsame, hunset⟩ := Wire.resourceRequest_alike hendpoint hr.renews.first hr.renews.second
  obtain ⟨value, hp, hh⟩ := Session.headers_with_token (by rw [htoken]; exact hne)
    (Wire.headers_of_resourceRequest hr.renews.second)
  refine ⟨hsame, hunset, hr.renews.second, r.leading.toList, r.login, r.inner.toList, token, value,
    hx, ?_, hr.renews.login, ht, hne, ?_, ?_⟩
  · intro e he
    obtain he | he := List.mem_append.mp he
    · exact hr.leading.purpose_eq he
    · exact hr.renews.inner.purpose_eq he
  · rw [hh]
    exact Fields.get?_put_self _ _ _
  · rw [← htoken]
    exact hp

/-- Here the first request shows its token in the old style, and the second in the new one. -/
theorem replay_shows_new_token_in_new_style :
    let o := run Sample.wire Sample.order Reply.json Sample.unsettled
    let left := o.standing.desk.current
    ∃ first second, Trace.attempts Sample.unsettled.script o.events = [first, second] ∧
      second.request = { first.request with headers := second.request.headers } ∧
      second.request.headers.unset = first.request.headers.unset ∧
      Sample.wire.resourceRequest left Sample.order = .ok second.request ∧
      ∃ before login after token value,
        Trace.exchanges Sample.unsettled.script o.events =
          before ++ first :: login :: (after ++ [second]) ∧
        (∀ e ∈ before ++ after, e.purpose = .version) ∧
        login.purpose = .login ∧ login.token? .listed = some token ∧ token ≠ [] ∧
        second.request.headers.get? Headers.authorization = some value ∧
        Authorization.Presents token left.version value := by
  intro o left
  have htwo : (Trace.attempts Sample.unsettled.script o.events).length = 2 := by decide +kernel
  obtain ⟨first, second, h⟩ := List.length_eq_two.mp htwo
  exact ⟨first, second, h, replay_shows_new_token h⟩

/-- The two requests negotiate one media type, unless an empty word was told for the version before
the first and one that is not empty before the second. -/
theorem replay_negotiates_alike_iff
    (h : Trace.attempts s.script (run w order reading s).events = [first, second]) :
    let told := Trace.wordsFor w.codecs .version s.script (run w order reading s).events
    (second.request.headers.get? Headers.accept = first.request.headers.get? Headers.accept ↔
      ∀ raw, told = [[], raw] → raw = []) ∧
    (second.request.headers.get? Headers.contentType =
        first.request.headers.get? Headers.contentType ↔
      ∀ raw, told = [[], raw] → raw = []) := by
  intro told
  have hresource : ∀ e ∈ [first, second], e.purpose = .resource := by
    intro e he
    rw [← h] at he
    simpa using (List.mem_filter.mp he).2
  obtain ⟨r, rfl, rfl, hx, hr⟩ := run_twice w order s h
  have htold : told = _ :=
    (congrArg (List.filterMap (wordFor w.codecs .version)) hx).trans
      (hr.version_words (hresource _ (by simp)) (hresource _ (by simp)))
  have ha := Session.heads_of_headers (Wire.headers_of_resourceRequest hr.renews.first)
  have hb := Session.heads_of_headers (Wire.headers_of_resourceRequest hr.renews.second)
  rw [ha.acceptEntry, hb.acceptEntry, ha.contentTypeEntry, hb.contentTypeEntry, Option.some_inj,
    Session.negotiated_eq_iff, htold]
  exact ⟨hr.version_eq_iff, hr.version_eq_iff⟩

/-- A version that stays unknown after an empty word and is told after the login. -/
theorem replay_negotiates_alike_iff_told_late :
    let o := run Sample.wire Sample.order Reply.json Sample.unsettled
    let told := Trace.wordsFor .listed .version Sample.unsettled.script o.events
    ∃ first second, Trace.attempts Sample.unsettled.script o.events = [first, second] ∧
      (second.request.headers.get? Headers.accept = first.request.headers.get? Headers.accept ↔
        ∀ raw, told = [[], raw] → raw = []) ∧
      (second.request.headers.get? Headers.contentType =
          first.request.headers.get? Headers.contentType ↔
        ∀ raw, told = [[], raw] → raw = []) := by
  intro o told
  have htwo : (Trace.attempts Sample.unsettled.script o.events).length = 2 := by decide +kernel
  obtain ⟨first, second, h⟩ := List.length_eq_two.mp htwo
  exact ⟨first, second, h, replay_negotiates_alike_iff h⟩

/-- So a request that is sent again need not negotiate what the first one did. -/
theorem replay_after_empty_word_negotiates_anew :
    ¬∀ (w : Wire) (order : Order) (s : Standing) (first second : Exchange),
      Trace.attempts s.script (execute w order s).events = [first, second] →
      second.request.headers.get? Headers.accept = first.request.headers.get? Headers.accept ∧
        second.request.headers.get? Headers.contentType =
          first.request.headers.get? Headers.contentType := by
  intro hall
  let attempts := Trace.attempts Sample.unsettled.script
    (execute Sample.wire Sample.order Sample.unsettled).events
  have haccept : attempts.map (fun e => e.request.headers.get? Headers.accept) =
      [some (Text.ofString "application/json"),
        some (Text.ofString "application/json;version=4.0")] := by decide +kernel
  obtain ⟨first, second, h⟩ := List.length_eq_two.mp
    ((List.length_map _).symm.trans (congrArg List.length haccept))
  rw [h] at haccept
  simp only [List.map_cons, List.map_nil, List.cons.injEq, and_true] at haccept
  have heq := (hall Sample.wire Sample.order Sample.unsettled first second h).1
  rw [haccept.1, haccept.2] at heq
  revert heq
  decide

end Dispatch

end StorageGateway
