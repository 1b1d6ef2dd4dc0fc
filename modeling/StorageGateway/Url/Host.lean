import StorageGateway.Text.Basic

/-! Hosts: addresses in brackets, and letters that fold into delimiters. -/
namespace StorageGateway.Url

/-- A decimal byte without zeros in front. -/
def isAddressByte (t : Text) : Bool :=
  !t.isEmpty && t.all CodePoint.isAsciiDigit && t.length ≤ 3 &&
    (t.length == 1 || t.head? != some 0x30) &&
    t.foldl (fun n c => 10 * n + (c.val - 0x30)) 0 ≤ 255

/-- Four decimal bytes with dots between them. -/
def isDottedAddress (t : Text) : Bool :=
  let parts := Text.splitOn CodePoint.dot t
  parts.length == 4 && parts.all isAddressByte

/-- Up to four hexadecimal digits, and at least one. -/
def isAddressGroup (t : Text) : Bool :=
  !t.isEmpty && t.length ≤ 4 && t.all fun c => c.hexValue?.isSome

/-- The groups of an address, where a dotted address at the end counts as two. -/
def addressGroups? (t : Text) : Option (List Text) :=
  let parts := Text.splitOn CodePoint.colon t
  let last := parts.getLastD []
  if parts.length < 3 then none
  else if last.contains CodePoint.dot then
    if isDottedAddress last then some (parts.dropLast ++ [[0x30], [0x30]]) else none
  else some parts

/-- Eight groups, or fewer around one gap that stands for the zeros left out. A part without digits
at either end belongs to such a gap. -/
def areAddressGroups (groups : List Text) : Bool :=
  let inner := (groups.drop 1).dropLast
  let gaps := (inner.filter (·.isEmpty)).length
  if 9 < groups.length || 1 < gaps then false
  else if gaps = 1 then
    let before := groups.takeWhile (!·.isEmpty)
    let before := if (groups.headD []).isEmpty then
        (if (inner.headD [0x30]).isEmpty then some [] else none) else some before
    let after := (groups.reverse.takeWhile (!·.isEmpty))
    let after := if (groups.getLastD []).isEmpty then
        (if (inner.getLastD [0x30]).isEmpty then some [] else none) else some after
    match before, after with
    | some before, some after =>
      before.length + after.length < 8 && before.all isAddressGroup && after.all isAddressGroup
    | _, _ => false
  else groups.length == 8 && groups.all isAddressGroup

/-- A colon address, with a zone after a percent sign or without. -/
def isColonAddress (t : Text) : Bool :=
  let (address, zone) := match Text.splitFirst? 0x25 t with
    | some (address, zone) => (address, some zone)
    | none => (t, none)
  (match zone with
    | some zone => !zone.isEmpty && !zone.contains 0x25
    | none => true) && !address.contains CodePoint.slash &&
    match addressGroups? address with
    | some groups => areAddressGroups groups
    | none => false

/-- An address of a later version: its number after the letter v, a dot, and at least one more. -/
def isFutureAddress (t : Text) : Bool :=
  match t with
  | v :: r =>
    let digits := r.takeWhile fun c => c.hexValue?.isSome
    let rest := r.dropWhile fun c => c.hexValue?.isSome
    v == 0x76 && !digits.isEmpty && rest.head? == some CodePoint.dot && 1 < rest.length &&
      !(rest.drop 1).contains CodePoint.newline
  | [] => false

/-- The code points whose compatibility form holds one of the marks that divide a URL. -/
def foldedDelimiters : List Nat := [
  0x2047, 0x2048, 0x2049, 0x2100, 0x2101, 0x2105, 0x2106, 0x2A74, 0xFE13, 0xFE16, 0xFE55, 0xFE56,
  0xFE5F, 0xFE6B, 0xFF03, 0xFF0F, 0xFF1A, 0xFF1F, 0xFF20]

def foldsToDelimiter (c : CodePoint) : Bool := foldedDelimiters.contains c.val

end StorageGateway.Url
