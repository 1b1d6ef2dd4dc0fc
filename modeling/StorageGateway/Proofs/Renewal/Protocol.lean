import Mathlib.Computability.RegularExpressions
import StorageGateway.Proofs.Renewal.Dialogue

/-! The requests of one call as a word over what requests are for. The version may come first, and
then the resource; a login, which may need the version too, stands between the first request for
the resource and the second. -/
namespace StorageGateway

namespace Purpose

open RegularExpression

/-- At most one word of an expression. -/
def optionally (r : RegularExpression Purpose) : RegularExpression Purpose := 1 + r

/-- The words of a call: a lost login, or a version that stays unknown after it, ends the call
without the resource. -/
def callWords : RegularExpression Purpose :=
  optionally (char version) *
    optionally (char resource *
      optionally (char login * optionally (char version) * optionally (char resource)))

/-- The words of a gateway that takes every login. -/
def replayedWords : RegularExpression Purpose :=
  optionally (char version) *
    optionally (char resource *
      optionally (char login * optionally (char version) * char resource))

/-- What an exchange that may have taken place was for. -/
def upTo (p : Purpose) (happens : Bool) : List Purpose := if happens then [p] else []

/-- Five exchanges make a word of a call if none but the first two comes out of turn. -/
theorem word_mem_callWords (leading first login inner replay : Bool)
    (hl : first = false → login = false) (hi : login = false → inner = false)
    (hr : login = false → replay = false) :
    upTo .version leading ++ upTo .resource first ++ upTo .login login ++ upTo .version inner ++
      upTo .resource replay ∈ callWords.matches' := by
  revert leading first login inner replay
  decide

end Purpose

open Purpose

theorem Exchange.Happens.purposes {p : Purpose} {due : Prop} {built : Except Fault Request}
    {e : Option Exchange} (h : Happens p due built e) :
    e.toList.map Exchange.purpose = upTo p e.isSome := by
  cases e with
  | none => rfl
  | some e => simpa [upTo] using h.2.1

namespace Dialogue

variable {d : Dialogue} {w : Wire} {order : Order} {s : Session} {due : Prop}

/-- Whether or not the session has credentials, a login needs a status. -/
theorem Renews.login_purposes (h : d.Renews w order due s) :
    d.login.toList.map Exchange.purpose = upTo .login d.login.isSome ∧
      (d.first = none → d.login = none) := by
  cases hc : s.credentials with
  | none =>
    rw [h.login_of_none hc]
    exact ⟨rfl, fun _ => rfl⟩
  | some c =>
    refine ⟨(h.login c hc).purposes, fun hf => (h.login c hc).not_of_not_due ?_⟩
    rw [hf]
    simp

/-- A dialogue is a word of a call. -/
theorem Follows.purposes_mem (h : d.Follows w order s) :
    d.word.map Exchange.purpose ∈ callWords.matches' := by
  obtain ⟨hlp, hln⟩ := h.renews.login_purposes
  have hword : d.word.map Exchange.purpose =
      upTo .version d.leading.isSome ++ upTo .resource d.first.isSome ++
        upTo .login d.login.isSome ++ upTo .version d.inner.isSome ++
        upTo .resource d.replay.isSome := by
    simp only [word, List.map_append, h.leading.purposes, h.renews.first.purposes, hlp,
      h.renews.inner.purposes, h.renews.replay.purposes]
  rw [hword]
  refine word_mem_callWords _ _ _ _ _ ?_ ?_ ?_
  · intro hf
    have hf : d.first = none := by simpa using hf
    rw [hln hf]
    rfl
  · intro hl
    have hl : d.login = none := by simpa using hl
    rw [h.renews.inner.not_of_not_due (by simp [hl])]
    rfl
  · intro hl
    have hl : d.login = none := by simpa using hl
    rw [h.renews.replay.not_of_not_due (by simp [hl])]
    rfl

end Dialogue

namespace Dispatch

/-- A call follows the protocol, whatever its replies are read as, if no body can turn a token down.
-/
theorem run_follows_protocol {α : Type} {reading : Reply → Except Fault α} (w : Wire)
    (order : Order) (s : Standing) (hc : Reply.IsCalm reading) (hs : IsSoundScript s.script) :
    ∃ d : Dialogue, d.Follows w order s.desk.current ∧
      Trace.exchanges s.script (run w order reading s).events = d.word ∧
      Trace.purposes (run w order reading s).events ∈ callWords.matches' := by
  obtain ⟨d, hd, hx⟩ := run_follows w order s hc hs
  refine ⟨d, hd, hx, ?_⟩
  rw [← Trace.map_purpose_exchanges s.script, hx]
  exact hd.purposes_mem

end Dispatch

end StorageGateway
