import StorageGateway.Failure
import StorageGateway.Mishap

/-! How an operation ends when it does not succeed: with a problem, and with the problems that it
was raised from, nearest first. -/
namespace StorageGateway

inductive Problem where
  | failure (f : Failure)
  | mishap (m : Mishap)

def Problem.text : Problem → Text
  | failure f => f.text
  | mishap m => m.message

structure Fault where
  problem : Problem
  causes : List Problem := []

namespace Fault

def ofFailure (f : Failure) : Fault := ⟨.failure f, []⟩

def ofMishap (m : Mishap) : Fault := ⟨.mishap m, []⟩

/-- A failure raised from another fault. -/
def wrap (f : Failure) (cause : Fault) : Fault := ⟨.failure f, cause.problem :: cause.causes⟩

def text (fault : Fault) : Text := fault.problem.text

def failure? (fault : Fault) : Option Failure :=
  match fault.problem with
  | .failure f => some f
  | .mishap _ => none

end Fault

end StorageGateway
