import StorageGateway.Call
import StorageGateway.CommandLine.Misuse
import StorageGateway.Listing.Table
import StorageGateway.Text.Styling

/-! What a command does before the eyes of its user, and how it ends. -/
namespace StorageGateway.CommandLine

/-- One thing that happens while a command runs. -/
inductive Act where
  | did (e : Event)
  | printed (line : Text)
  | drawn (t : Listing.Table)
  | reported (line : Text)
  deriving DecidableEq

inductive Ending where
  /-- The result was shown. -/
  | finished
  /-- A failure was reported. -/
  | failed
  | misused (m : Misuse)
  /-- A fault that is no failure of this library went through. -/
  | broken (fault : Fault)

/-- The exit status, if the command came to its own end. -/
def Ending.status? : Ending → Option Nat
  | finished => some 0
  | failed => some 1
  | misused _ | broken _ => none

/-- A report names the status if the gateway itself answered with the error. -/
def report (f : Failure) : Text :=
  match f.kind.isRejection, f.status with
  | true, some status =>
    "Request failed (status " ++ Decimal.integer status ++ "): " ++ f.text
  | _, _ => "Request failed: " ++ f.text

/-- A text as a line of its own, without styling. -/
def line (t : Text) : Text := t.unstyled ++ [CodePoint.newline]

/-- What became of a command line. -/
structure Run where
  ending : Ending
  acts : List Act := []
  /-- How many replies came. -/
  answered : Nat := 0

namespace Run

def events (r : Run) : List Event :=
  r.acts.filterMap fun
    | .did e => some e
    | _ => none

def standardOutput (r : Run) : Text :=
  r.acts.flatMap fun
    | .printed line => line
    | _ => []

/-- What the command itself reports; what is said about an ending that it leaves unexplained is not
in it. -/
def standardError (r : Run) : Text :=
  r.acts.flatMap fun
    | .reported line => line
    | _ => []

def tables (r : Run) : List Listing.Table :=
  r.acts.filterMap fun
    | .drawn t => some t
    | _ => none

end Run

end StorageGateway.CommandLine
