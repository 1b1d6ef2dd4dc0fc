import StorageGateway.Operation
import StorageGateway.Proofs.Inquiry

/-! What all work for a gateway is put together from: a few pieces, in a few ways. What holds of the
pieces and is kept by the ways of putting them together holds of every call; so each call takes one
answer of its script for each request that it sends, and leaves the recorder in its place. -/
namespace StorageGateway

namespace Call

/-- Work put together from the pieces of work for a gateway. -/
inductive Built : {α : Type} → Call α → Prop where
  | pure {α : Type} (a : α) : Built (Pure.pure a : Call α)
  | fail {α : Type} (fault : Fault) : Built (fail fault : Call α)
  | ofExcept {α : Type} (r : Except Fault α) : Built (ofExcept r)
  | close (index : Nat) : Built (emit (.closed index))
  | note (n : Notice) : Built (note n)
  | session : Built session
  | changeDesk (f : Desk → Desk) : Built (changeDesk f)
  | send (w : Wire) (p : Purpose) (request : Request) : Built (w.send p request)
  | record (operation : Text) : Built (Dispatch.record operation)
  | bind {α β : Type} {call : Call α} {next : α → Call β} (h : Built call)
      (hn : ∀ a, Built (next a)) : Built (call >>= next)
  | rescue {α : Type} {call : Call α} {handler : Fault → Call α} (h : Built call)
      (hh : ∀ fault, Built (handler fault)) : Built (rescue call handler)
  | mapFault {α : Type} {call : Call α} (f : Fault → Fault) (h : Built call) :
      Built (mapFault f call)
  | always {α : Type} {call : Call α} {last : Call Unit} (h : Built call) (hl : Built last) :
      Built (always call last)

variable {α β : Type}

theorem Built.ite {c : Prop} [Decidable c] {a b : Call α} (ha : Built a) (hb : Built b) :
    Built (if c then a else b) := by
  split
  · exact ha
  · exact hb

theorem send_paced (w : Wire) (p : Purpose) (request : Request) : Paced (w.send p request) := by
  intro s
  rw [w.send_standing, w.send_purposes, Standing.next_script]
  exact List.drop_one.symm

theorem record_paced (operation : Text) : Paced (Dispatch.record operation) :=
  Paced.of_silent fun s => ⟨Dispatch.record_purposes operation s,
    congrArg Standing.script (Dispatch.record_standing operation s)⟩

/-- All work takes one answer for each request. -/
theorem Built.paced {call : Call α} (h : Built call) : Paced call := by
  induction h with
  | pure a => exact Paced.pure a
  | fail fault => exact Paced.of_silent fun _ => ⟨rfl, rfl⟩
  | ofExcept r => exact Paced.of_silent fun _ => ⟨rfl, rfl⟩
  | close index => exact Paced.of_silent fun _ => ⟨rfl, rfl⟩
  | note n => exact Paced.of_silent fun _ => ⟨rfl, rfl⟩
  | session => exact Paced.of_silent fun _ => ⟨rfl, rfl⟩
  | changeDesk f => exact Paced.of_silent fun _ => ⟨rfl, rfl⟩
  | send w p request => exact send_paced w p request
  | record operation => exact record_paced operation
  | bind _ _ ih ihn => exact ih.bind ihn
  | rescue _ _ ih ihh => exact ih.rescue ihh
  | mapFault f _ ih => exact ih.mapFault f
  | always _ _ ih ihl => exact ih.always ihl

/-- All work leaves the recorder in its place. -/
theorem Built.recorder_eq {call : Call α} (h : Built call) :
    ∀ s, (call s).standing.recorder = s.recorder := by
  induction h with
  | pure a => exact fun _ => rfl
  | fail fault => exact fun _ => rfl
  | ofExcept r => exact fun _ => rfl
  | close index => exact fun _ => rfl
  | note n => exact fun _ => rfl
  | session => exact fun _ => rfl
  | changeDesk f => exact fun _ => rfl
  | send w p request => exact fun s => by rw [w.send_standing, Standing.next_recorder]
  | record operation => exact fun s => by rw [Dispatch.record_standing]
  | @bind _ _ call next _ _ ih ihn =>
    intro s
    cases hr : (call s).result with
    | ok a => rw [bind_of_ok hr]; exact (ihn a _).trans (ih s)
    | error fault => rw [bind_of_error hr]; exact ih s
  | @rescue _ call handler _ _ ih ihh =>
    intro s
    cases hr : (call s).result with
    | ok a => rw [rescue_of_ok hr]; exact ih s
    | error fault => rw [rescue_of_error hr]; exact (ihh fault _).trans (ih s)
  | mapFault f _ ih => exact ih
  | always _ _ ih ihl => exact fun s => (ihl _).trans (ih s)

end Call

open Call

variable {α : Type}

theorem Delivery.read_built (d : Delivery) (reading : Reply → Except Fault α) :
    Built (d.read reading) :=
  (Built.close _).bind fun _ => .ofExcept _

theorem Delivery.reject_built (d : Delivery) : Built (d.reject : Call α) :=
  (d.read_built _).bind fun _ => .fail _

namespace Login

variable (w : Wire) (c : Credentials) (timeout : Option Binary64)

theorem recordVersion_built (raw : Text) : Built (recordVersion raw) :=
  (Built.changeDesk _).bind fun _ => (Built.note _).bind fun _ => .pure _

theorem askVersion_built : Built (askVersion w timeout) :=
  Built.session.bind fun _ => (Built.ofExcept _).bind fun _ => (Built.ofExcept _).bind fun _ =>
    (Built.send w _ _).bind fun d =>
      .ite ((d.read_built _).bind recordVersion_built) d.reject_built

theorem discoverVersion_built (refresh : Bool) : Built (discoverVersion w refresh timeout) :=
  Built.session.bind fun _ => .ite (.pure _) (askVersion_built w timeout)

theorem rejectLogin_built (d : Delivery) : Built (rejectLogin d : Call α) :=
  (d.read_built _).bind fun _ => .ite (.fail _) (.fail _)

theorem exchange_built : Built (exchange w c timeout) :=
  (Built.changeDesk _).bind fun _ => Built.session.bind fun _ => (Built.ofExcept _).bind fun _ =>
    (Built.ofExcept _).bind fun _ => (Built.send w _ _).bind fun d =>
      .ite
        ((d.read_built _).bind fun _ => .ite (.fail _)
          ((Built.changeDesk _).bind fun _ => (Built.note _).bind fun _ => .pure _))
        (rejectLogin_built d)

theorem authenticate_built : Built (authenticate w c timeout) :=
  (exchange_built w c timeout).bind fun _ => Built.session.bind fun _ =>
    .ite (.pure _)
      (((discoverVersion_built w timeout false).mapFault _).bind fun _ => .pure _)

end Login

namespace Dispatch

variable (w : Wire) (order : Order) (reading : Reply → Except Fault α)

theorem attempt_built : Built (attempt w order reading) :=
  Built.session.bind fun _ => (Built.ofExcept _).bind fun _ => (Built.ofExcept _).bind fun _ =>
    (Built.note _).bind fun _ => (Built.send w _ _).bind fun d =>
      .ite (d.read_built _) d.reject_built

theorem withRenewal_built (timeout : Option Binary64) {call : Call α} (h : Built call) :
    Built (withRenewal w timeout call) := by
  refine h.rescue fun fault => Built.session.bind fun s => ?_
  split
  · exact (Built.note _).bind fun _ =>
      ((Login.authenticate_built w _ timeout).mapFault _).bind fun _ => h
  · exact .fail _

theorem dispatch_built : Built (dispatch w order reading) :=
  Built.session.bind fun _ => .ite
    (withRenewal_built w _ (attempt_built w order reading))
    ((Login.discoverVersion_built w _ false).bind fun _ =>
      withRenewal_built w _ (attempt_built w order reading))

theorem run_built : Built (run w order reading) :=
  (dispatch_built w order reading).always (.record _)

end Dispatch

end StorageGateway
