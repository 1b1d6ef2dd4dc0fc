import StorageGateway.Fault

/-! Paths of files, as their root and their parts. Empty parts and single dots say nothing and are
left out; a tilde in front stands for somebody's home. -/
namespace StorageGateway

structure Path where
  root : Text
  parts : List Text
  deriving DecidableEq

namespace Path

def isSlash (c : CodePoint) : Bool := c == CodePoint.slash

/-- What stands for the directory that one is in. -/
def here : Text := [CodePoint.dot]

/-- Two slashes in front are a root of their own, any other number above zero is the common one. -/
def rootOf (t : Text) : Text :=
  match (t.takeWhile isSlash).length with
  | 0 => []
  | 2 => [CodePoint.slash, CodePoint.slash]
  | _ => [CodePoint.slash]

def ofText (t : Text) : Path where
  root := rootOf t
  parts := (Text.splitOn CodePoint.slash t).filter fun part => part ≠ [] ∧ part ≠ here

def toText (p : Path) : Text :=
  let t := p.root ++ Text.joinWith [CodePoint.slash] p.parts
  if t = [] then here else t

def tilde : CodePoint := 0x7E

/-- A home without slashes at its end; if nothing is left it is the root. -/
def trimmedHome (home : Text) : Text :=
  let t := Text.dropEndWhile isSlash home
  if t = [] then [CodePoint.slash] else t

/-- The path with a tilde in front replaced by a home. An empty name asks for one's own. -/
def expand (home? : Text → Option Text) (p : Path) : Except Fault Path :=
  match p.root, p.parts with
  | [], (c :: name) :: parts =>
    if c = tilde then
      match (home? name).map trimmedHome with
      | some home =>
        if home.head? = some tilde then .error (.ofMishap .homeUnknown)
        else .ok (ofText (Text.joinWith [CodePoint.slash] (home :: parts)))
      | none => .error (.ofMishap .homeUnknown)
    else .ok p
  | _, _ => .ok p

example : (ofText (Text.ofString "//a/./b//")).toText = Text.ofString "//a/b" := by decide
example : (ofText []).toText = Text.ofString "." := by decide

end Path

end StorageGateway
