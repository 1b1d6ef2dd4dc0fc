import StorageGateway.Session.Basic

/-! The place where a client keeps its session. A caller may hand a session over and goes on seeing
what becomes of it, until a new login attempt takes a fresh one in its place. -/
namespace StorageGateway

/-- The session that was handed over last. -/
inductive Handed where
  | never
  /-- It is the one in use. -/
  | inUse
  /-- It was left behind with the value that it had. -/
  | leftBehind (s : Session)
  deriving DecidableEq

structure Desk where
  current : Session
  handed : Handed := .never
  deriving DecidableEq

namespace Desk

/-- The handed session as its owner sees it. -/
def given? (d : Desk) : Option Session :=
  match d.handed with
  | .never => none
  | .inUse => some d.current
  | .leftBehind s => some s

/-- Puts a fresh session in the place of the current one. -/
def start (d : Desk) : Desk where
  current := d.current.restarted
  handed := match d.handed with
    | .inUse => .leftBehind d.current
    | other => other

def establish (d : Desk) (token : Text) (credentials : Credentials) : Desk :=
  { d with current := d.current.established token credentials }

def install (_ : Desk) (s : Session) : Desk := ⟨s, .inUse⟩

def setToken (d : Desk) (token : Text) : Desk := { d with current := d.current.withToken token }

def setVersion (d : Desk) (version : Option Text) : Desk :=
  { d with current := d.current.withVersion version }

end Desk

end StorageGateway
