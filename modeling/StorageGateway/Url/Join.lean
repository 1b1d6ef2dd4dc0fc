import StorageGateway.Url.Split

/-! Writing a URL from its parts, and resolving a reference against a base. -/
namespace StorageGateway.Url

/-- `mark` and `t`, or nothing when `t` is empty. -/
def marked (mark : CodePoint) (t : Text) : Text := if t = [] then [] else mark :: t

/-- The authority with its two slashes and the path, which then starts with a slash of its own. A
scheme that names authorities has the slashes also before an empty one, unless the path brings two
slashes with it: what follows those is read back as the authority. -/
def writeAuthority (scheme authority path : Text) : Text :=
  if authority ≠ [] ∨ (scheme ≠ [] ∧ scheme ∈ authoritySchemes ∧
      path.take 2 ≠ [CodePoint.slash, CodePoint.slash]) then
    let path :=
      if path ≠ [] ∧ path.head? ≠ some CodePoint.slash then CodePoint.slash :: path else path
    [CodePoint.slash, CodePoint.slash] ++ authority ++ path
  else path

example : writeAuthority "https" [] "//a/" = "//a/" := by decide +kernel
example : writeAuthority "https" [] "/a" = "///a" := by decide +kernel

def Parts.write (p : Parts) : Text :=
  (if p.scheme = [] then [] else p.scheme ++ [CodePoint.colon]) ++
    writeAuthority p.scheme p.authority (p.path ++ marked CodePoint.semicolon p.params) ++
    marked CodePoint.questionMark p.query ++ marked CodePoint.numberSign p.fragment

def here : Text := [CodePoint.dot]
def above : Text := [CodePoint.dot, CodePoint.dot]

/-- Walks one segment: `stack` holds the segments so far, the last one first. -/
def walk (stack : List Text) (segment : Text) : List Text :=
  if segment = above then stack.tail
  else if segment = here then stack
  else segment :: stack

/-- The segments without dot segments; one at the end leaves the trailing slash. -/
def resolveSegments (segments : List Text) : List Text :=
  let walked := (segments.foldl walk []).reverse
  if segments.getLast? = some here ∨ segments.getLast? = some above then walked ++ [[]] else walked

/-- Leaves out the empty segments between the first and the last. -/
def withoutEmptyInside : List Text → List Text
  | [] => []
  | [segment] => [segment]
  | first :: rest => first :: rest.dropLast.filter (· ≠ []) ++ [rest.getLastD []]

/-- The segments of a path, put behind the directory of the base unless it starts at the root. -/
def segmentsFrom (base path : Text) : List Text :=
  if path.head? = some CodePoint.slash then Text.splitOn CodePoint.slash path
  else
    let parts := Text.splitOn CodePoint.slash base
    let directory := if parts.getLast? = some [] then parts else parts.dropLast
    withoutEmptyInside (directory ++ Text.splitOn CodePoint.slash path)

/-- The path of a reference, read from the path of the base. -/
def joinPaths (base path : Text) : Text :=
  let joined := Text.joinWith [CodePoint.slash] (resolveSegments (segmentsFrom base path))
  if joined = [] then [CodePoint.slash] else joined

/-- Resolves the parts of a reference against those of the base. -/
def resolveParts (base reference : Parts) : Parts :=
  if reference.scheme ∈ authoritySchemes ∧ reference.authority ≠ [] then reference
  else
    let authority :=
      if reference.scheme ∈ authoritySchemes then base.authority else reference.authority
    if reference.path = [] ∧ reference.params = [] then
      { reference with
        authority, path := base.path, params := base.params
        query := if reference.query = [] then base.query else reference.query }
    else { reference with authority, path := joinPaths base.path reference.path }

/-- The meaning of `reference` on a page at `base`. A reference with a scheme of its own, or with
one whose paths are not relative, stays as it is. -/
def join (base reference : Text) : Except Fault Text :=
  if base = [] then .ok reference
  else if reference = [] then .ok base
  else do
    let b ← split [] base
    let r ← split b.scheme reference
    if r.scheme = b.scheme ∧ r.scheme ∈ relativeSchemes then .ok (resolveParts b r).write
    else .ok reference

end StorageGateway.Url
