import StorageGateway.Proofs.Desks
import StorageGateway.Proofs.Replies

/-! What happens to a session, read off the exchanges of a call: a login attempt begins, a token is
won, a version is told. Each call leaves the session that its happenings make of the one it found.
-/
namespace StorageGateway

/-- What decides about a session or a part of it. -/
inductive Happening where
  | handedOver (s : Session)
  | tokenGiven (token : Text)
  | loginBegun
  | loggedIn (token : Text) (c : Credentials)
  | versionTold (raw : Text)

namespace Session

def happen (s : Session) : Happening → Session
  | .handedOver given => given
  | .tokenGiven token => s.withToken token
  | .loginBegun => s.restarted
  | .loggedIn token c => s.established token c
  | .versionTold raw => s.withVersion (some (Version.extract raw))

/-- The session after some happenings. -/
def across (s : Session) (happenings : List Happening) : Session := happenings.foldl happen s

@[simp] theorem across_nil (s : Session) : s.across [] = s := rfl

@[simp] theorem across_cons (s : Session) (h : Happening) (happenings : List Happening) :
    s.across (h :: happenings) = (s.happen h).across happenings := rfl

@[simp] theorem across_append (s : Session) (a b : List Happening) :
    s.across (a ++ b) = (s.across a).across b := List.foldl_append

end Session

namespace Happening

variable {β : Type}

/-- What the latest of some happenings that decides about a part has made it; without one it is as
it was before. -/
def latest (part : Happening → Option β) (before : β) (happenings : List Happening) : β :=
  (happenings.filterMap part).getLast?.getD before

def endpoint? : Happening → Option Text
  | handedOver s => some s.endpoint
  | _ => none

def credentials? : Happening → Option (Option Credentials)
  | handedOver s => some s.credentials
  | loggedIn _ c => some (some c)
  | _ => none

def token? : Happening → Option Text
  | handedOver s => some s.token
  | tokenGiven token => some token
  | loginBegun => some []
  | loggedIn token _ => some token
  | versionTold _ => none

/-- A version is kept in its short form, and not at all if that is empty. -/
def version? : Happening → Option (Option Text)
  | handedOver s => some s.version
  | versionTold raw => some ((some (Version.extract raw)).filter (· ≠ []))
  | _ => none

theorem latest_cons (part : Happening → Option β) (before : β) (h : Happening)
    (happenings : List Happening) :
    latest part before (h :: happenings) = latest part ((part h).getD before) happenings := by
  unfold latest
  cases hp : part h with
  | none => rw [List.filterMap_cons_none hp]; rfl
  | some value =>
    rw [List.filterMap_cons_some hp, List.getLast?_cons]
    rfl

end Happening

/-- A part of the session about which each happening decides or says nothing. -/
theorem Session.across_part {β : Type} {field : Session → β} {part : Happening → Option β}
    (hp : ∀ s h, field (Session.happen s h) = (part h).getD (field s)) (s : Session)
    (happenings : List Happening) :
    field (s.across happenings) = Happening.latest part (field s) happenings := by
  induction happenings generalizing s with
  | nil => rfl
  | cons h happenings ih => rw [Session.across_cons, ih, hp, Happening.latest_cons]

namespace Exchange

/-- What an exchange means for a session, if the credentials of a login are known. -/
def happening? (codecs : Bytes.Codecs) (held : Option Credentials) (e : Exchange) :
    Option Happening :=
  match e.purpose with
  | .login => (e.token? codecs).bind fun token => held.map (.loggedIn token)
  | .version => (e.word? codecs).map .versionTold
  | .resource => none

/-- What an exchange means leaves the credentials at those that are held. -/
theorem credentials_across_happening (codecs : Bytes.Codecs) {held : Option Credentials}
    {s : Session} (hs : s.credentials = held) (e : Exchange) :
    (s.across (e.happening? codecs held).toList).credentials = held := by
  unfold happening?
  split
  · cases e.token? codecs with
    | none => exact hs
    | some token =>
      cases held with
      | none => exact hs
      | some c => rfl
  · cases e.word? codecs with
    | none => exact hs
    | some raw => exact hs
  · exact hs

/-- The request shows these credentials. -/
def Shows (e : Exchange) (c : Credentials) : Prop :=
  Fields.get? Headers.authorization e.request.headers =
    (Authorization.basic c.username c.password).toOption

end Exchange

/-- A request that logs in shows the credentials that it was made for. -/
theorem Wire.loginRequest_shows {w : Wire} {s : Session} {c : Credentials}
    {timeout : Option Binary64} {request : Request}
    (h : w.loginRequest s c timeout = .ok request) (p : Purpose) (answer : Option Answer) :
    (⟨p, request, answer⟩ : Exchange).Shows c := by
  obtain ⟨headers, url, hh, -, rfl⟩ := Wire.loginRequest_ok h
  rw [Authorization.ofCredentials_eq] at hh
  unfold Exchange.Shows
  cases hb : Authorization.basic c.username c.password with
  | error e => rw [hb] at hh; cases hh
  | ok value =>
    rw [hb] at hh
    cases hh
    exact Fields.get?_put_self _ _ _

namespace Trace

/-- The happenings of a call whose logins are made with the credentials that are held. A rejected
token makes a login attempt begin, also one that sends nothing. -/
def happenings (codecs : Bytes.Codecs) (held : Option Credentials) :
    List Answer → List Event → List Happening
  | _, [] => []
  | script, .sent purpose request :: events =>
    (Exchange.happening? codecs held ⟨purpose, request, script.head?⟩).toList ++
      happenings codecs held script.tail events
  | script, .noted .tokenRejected :: events => .loginBegun :: happenings codecs held script events
  | script, _ :: events => happenings codecs held script events

variable {codecs : Bytes.Codecs} {held : Option Credentials}

@[simp] theorem happenings_nil (script : List Answer) : happenings codecs held script [] = [] := by
  cases script <;> rfl

@[simp] theorem happenings_sent (script : List Answer) (p : Purpose) (request : Request)
    (events : List Event) : happenings codecs held script (.sent p request :: events) =
      (Exchange.happening? codecs held ⟨p, request, script.head?⟩).toList ++
        happenings codecs held script.tail events := rfl

@[simp] theorem happenings_tokenRejected (script : List Answer) (events : List Event) :
    happenings codecs held script (.noted .tokenRejected :: events) =
      .loginBegun :: happenings codecs held script events := rfl

theorem happenings_noted (script : List Answer) {n : Notice} (h : n ≠ .tokenRejected)
    (events : List Event) :
    happenings codecs held script (.noted n :: events) = happenings codecs held script events := by
  cases n with
  | tokenRejected => exact absurd rfl h
  | _ => rfl

/-- Events that mean nothing for a session. -/
def IsIdle (e : Event) : Prop := purpose? e = none ∧ e ≠ .noted .tokenRejected

/-- Only requests and rejected tokens mean something. -/
theorem idle_or (e : Event) :
    IsIdle e ∨ (∃ p request, e = .sent p request) ∨ e = .noted .tokenRejected := by
  cases e with
  | sent p request => exact .inr (.inl ⟨p, request, rfl⟩)
  | noted n =>
    by_cases hn : n = .tokenRejected
    · exact .inr (.inr (congrArg Event.noted hn))
    · exact .inl ⟨rfl, fun h => hn (Event.noted.inj h)⟩
  | _ => exact .inl ⟨rfl, Event.noConfusion⟩

theorem happenings_of_idle (script : List Answer) {e : Event} (h : IsIdle e)
    (events : List Event) :
    happenings codecs held script (e :: events) = happenings codecs held script events := by
  cases e with
  | sent p request => cases h.1
  | noted n =>
    cases n with
    | tokenRejected => exact absurd rfl h.2
    | _ => rfl
  | _ => rfl

theorem happenings_of_all_idle (script : List Answer) {events : List Event}
    (h : ∀ e ∈ events, IsIdle e) : happenings codecs held script events = [] := by
  induction events with
  | nil => simp
  | cons e events ih =>
    rw [happenings_of_idle script (h e List.mem_cons_self)]
    exact ih fun x hx => h x (List.mem_cons_of_mem e hx)

theorem happenings_append (script : List Answer) (a b : List Event) :
    happenings codecs held script (a ++ b) =
      happenings codecs held script a ++
        happenings codecs held (script.drop (purposes a).length) b := by
  induction a generalizing script with
  | nil => simp
  | cons e a ih =>
    rw [List.cons_append]
    obtain he | ⟨p, request, rfl⟩ | rfl := idle_or e
    · rw [happenings_of_idle script he, happenings_of_idle script he, ih, purposes_cons, he.1]
      rfl
    · rw [happenings_sent, happenings_sent, ih, purposes_cons, List.append_assoc]
      simp [purpose?]
    · rw [happenings_tokenRejected, happenings_tokenRejected, ih, purposes_cons]
      rfl

/-- No happening of a call changes the credentials but to those that are held. -/
theorem credentials_across_happenings {s : Session} (hs : s.credentials = held)
    (script : List Answer) (events : List Event) :
    (s.across (happenings codecs held script events)).credentials = held := by
  induction events generalizing s script with
  | nil => simpa using hs
  | cons e events ih =>
    obtain he | ⟨p, request, rfl⟩ | rfl := idle_or e
    · rw [happenings_of_idle script he]
      exact ih hs script
    · rw [happenings_sent, Session.across_append]
      exact ih (Exchange.credentials_across_happening codecs hs _) script.tail
    · rw [happenings_tokenRejected, Session.across_cons]
      exact ih (show s.restarted.credentials = held from hs) script

end Trace

end StorageGateway
