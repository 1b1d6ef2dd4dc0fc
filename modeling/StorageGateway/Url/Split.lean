import StorageGateway.Text.Quoted
import StorageGateway.Url.Host

/-! The parts of a URL. Controls and blanks in front are skipped, and tabs and line ends are left
out wherever they stand, before the text is taken apart. -/
namespace StorageGateway.Url

structure Parts where
  scheme : Text
  authority : Text
  path : Text
  params : Text
  query : Text
  fragment : Text
  deriving DecidableEq

inductive Fault where
  | misplacedBrackets
  | badFutureAddress
  | notAnAddress (host : Text)
  | bracketedDottedAddress
  | foldedDelimiter (authority : Text)
  deriving DecidableEq

def Fault.message : Fault → Text
  | misplacedBrackets => "Invalid IPv6 URL"
  | badFutureAddress => "IPvFuture address is invalid"
  | notAnAddress host => host.quoted ++ " does not appear to be an IPv4 or IPv6 address"
  | bracketedDottedAddress => "An IPv4 address cannot be in brackets"
  | foldedDelimiter authority =>
    "netloc '" ++ authority ++ "' contains invalid characters under NFKC normalization"

/-- The schemes whose paths are taken relative to each other; a missing scheme counts as one. -/
def relativeSchemes : List Text := [
  "", "ftp", "http", "gopher", "nntp", "imap", "wais", "file", "https", "shttp", "mms", "prospero",
  "rtsp", "rtspu", "sftp", "svn", "svn+ssh", "ws", "wss"]

/-- The schemes whose URLs name an authority. -/
def authoritySchemes : List Text := [
  "", "ftp", "http", "gopher", "nntp", "telnet", "imap", "wais", "file", "mms", "https", "shttp",
  "snews", "prospero", "rtsp", "rtspu", "rsync", "svn", "svn+ssh", "sftp", "nfs", "git", "git+ssh",
  "ws", "wss"]

/-- The schemes whose last path segment may carry parameters after a semicolon. -/
def paramSchemes : List Text := [
  "", "ftp", "hdl", "prospero", "http", "imap", "https", "shttp", "rtsp", "rtspu", "sip", "sips",
  "mms", "sftp", "tel"]

def isLeadingJunk (c : CodePoint) : Bool := c.val ≤ 0x20

def isLineMark (c : CodePoint) : Bool := c.val == 0x09 || c.val == 0x0A || c.val == 0x0D

def clean (t : Text) : Text := (t.dropWhile isLeadingJunk).filter (!isLineMark ·)

def isSchemeMark (c : CodePoint) : Bool :=
  c.isAsciiLetter || c.isAsciiDigit || c == 0x2B || c == CodePoint.hyphen || c == CodePoint.dot

/-- The scheme in small letters and what follows its colon, if the text starts with a scheme. -/
def splitScheme? (t : Text) : Option (Text × Text) :=
  match Text.splitFirst? CodePoint.colon t with
  | some (c :: scheme, rest) =>
    if c.isAsciiLetter && scheme.all isSchemeMark then
      some ((c :: scheme).map CodePoint.asciiLower, rest)
    else none
  | _ => none

def endsAuthority (c : CodePoint) : Bool :=
  c == CodePoint.slash || c == CodePoint.questionMark || c == CodePoint.numberSign

/-- The authority after two slashes, and the rest. -/
def splitAuthority (t : Text) : Text × Text :=
  match t with
  | a :: b :: r =>
    if a = CodePoint.slash ∧ b = CodePoint.slash then
      (r.takeWhile (!endsAuthority ·), r.dropWhile (!endsAuthority ·))
    else ([], t)
  | _ => ([], t)

/-- Cuts at the first `mark`; without one the second part is empty. -/
def cut (mark : CodePoint) (t : Text) : Text × Text := (Text.splitFirst? mark t).getD (t, [])

/-- What follows the last at sign, or all of it: a user may be named in front. -/
def hostAndPort (authority : Text) : Text :=
  ((Text.splitLast? CodePoint.atSign authority).map (·.2)).getD authority

/-- The host in a host and port. A bracket may only open it, and behind the closing one there may
only be a port. -/
def hostOf (t : Text) : Except Fault Text :=
  match Text.splitFirst? CodePoint.openBracket t with
  | none => .ok (cut CodePoint.colon t).1
  | some (front, inner) =>
    let (host, port) := cut CodePoint.closeBracket inner
    if front = [] ∧ (port = [] ∨ port.head? = some CodePoint.colon) then .ok host
    else .error .misplacedBrackets

/-- A host in brackets is an address with colons or one of a later version. -/
def checkHost (host : Text) : Except Fault Unit :=
  if host.head? = some 0x76 then
    if isFutureAddress host then .ok () else .error .badFutureAddress
  else if isDottedAddress host then .error .bracketedDottedAddress
  else if isColonAddress host then .ok ()
  else .error (.notAnAddress host)

/-- Brackets come in both kinds or not at all; where there are any, even in the name of a user, the
host is checked as if it stood in them. -/
def checkBrackets (authority : Text) : Except Fault Unit :=
  match authority.contains CodePoint.openBracket, authority.contains CodePoint.closeBracket with
  | true, true => hostOf (hostAndPort authority) >>= checkHost
  | false, false => .ok ()
  | _, _ => .error .misplacedBrackets

example : checkBrackets (Text.ofString "u[@[::1]:80") = .ok () := by rfl
example : checkBrackets (Text.ofString "a[::1]") = .error .misplacedBrackets := by rfl
example : checkBrackets (Text.ofString "[::1]@gw") =
    .error (.notAnAddress (Text.ofString "gw")) := by rfl

def checkFolding (authority : Text) : Except Fault Unit :=
  if authority.any foldsToDelimiter then .error (.foldedDelimiter authority) else .ok ()

/-- Takes the parameters off the last segment of a path. -/
def splitParams (path : Text) : Text × Text :=
  match Text.splitLast? CodePoint.slash path with
  | some (front, last) =>
    let (name, params) := cut CodePoint.semicolon last
    (front ++ [CodePoint.slash] ++ name, params)
  | none => cut CodePoint.semicolon path

/-- Takes a URL apart; `scheme` stands in where the text names none. -/
def split (scheme t : Text) : Except Fault Parts := do
  let t := clean t
  let (scheme, rest) := (splitScheme? t).getD (scheme, t)
  let (authority, rest) := splitAuthority rest
  checkBrackets authority
  let (rest, fragment) := cut CodePoint.numberSign rest
  let (path, query) := cut CodePoint.questionMark rest
  checkFolding authority
  let (path, params) := if scheme ∈ paramSchemes then splitParams path else (path, [])
  return { scheme, authority, path, params, query, fragment }

end StorageGateway.Url
