import StorageGateway.Text.Basic
import StorageGateway.Text.Case.Table

/-! Small and capital forms of a text by the full Unicode mappings. The one mapping that looks at
its neighbours is the capital sigma, which takes its final form at the end of a word. -/
namespace StorageGateway

namespace CodePoint

def isCased (c : CodePoint) : Bool := Case.cased.contains c.val

def isCaseIgnorable (c : CodePoint) : Bool := Case.ignorable.contains c.val

def capitalSigma : CodePoint := 0x3A3
def sigma : CodePoint := 0x3C3
def finalSigma : CodePoint := 0x3C2
def dottedCapitalI : CodePoint := 0x130

/-- The small form, wherever the code point stands. -/
def lowered (c : CodePoint) : Text :=
  if c.isAscii then [c.asciiLower]
  else if c = dottedCapitalI then [0x69, 0x307]
  else [ofNat (Case.shift Case.toSmall c.val)]

def raised (c : CodePoint) : Text :=
  match Case.longCapitals.find? (·.1 == c.val) with
  | some (_, capitals) => capitals.map ofNat
  | none => [ofNat (Case.shift Case.toCapital c.val)]

end CodePoint

namespace Text

/-- Whether the first code point that is not looked through has a case. -/
def meetsCased (t : Text) : Bool :=
  match t.find? (!·.isCaseIgnorable) with
  | some c => c.isCased
  | none => false

/-- Lowers `t`, where `before` holds what came before it, nearest first. -/
def lowerAfter (before : Text) : Text → Text
  | [] => []
  | c :: t =>
    (if c = CodePoint.capitalSigma then
      [if meetsCased before && !meetsCased t then CodePoint.finalSigma else CodePoint.sigma]
    else c.lowered) ++ lowerAfter (c :: before) t

def lower (t : Text) : Text := lowerAfter [] t

def upper (t : Text) : Text := t.flatMap CodePoint.raised

@[simp] theorem lower_nil : lower [] = [] := rfl

@[simp] theorem upper_append (s t : Text) : upper (s ++ t) = upper s ++ upper t := by
  simp [upper]

end Text

end StorageGateway
