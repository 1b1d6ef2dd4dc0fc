import StorageGateway.Fields
import StorageGateway.Text.Case

/-! Header lines. What is sent keeps names apart that differ in letter case; where letter case does
not count, such names share the place of the first with the spelling and the value of the last. -/
namespace StorageGateway

abbrev Headers := Fields Text

namespace Headers

def accept : Text := "Accept"
def contentType : Text := "Content-Type"
def authorization : Text := "Authorization"

/-- Whether two names are the same when letter case does not count. -/
def sameName (a b : Text) : Bool := a.lower == b.lower

def putFolded (name value : Text) : Headers → Headers
  | [] => [(name, value)]
  | (n, v) :: headers =>
    if sameName n name then (name, value) :: headers else (n, v) :: putFolded name value headers

/-- Merges the headers whose names are the same when letter case does not count. -/
def folded (headers : List (Text × Text)) : Headers :=
  headers.foldl (fun merged (name, value) => putFolded name value merged) []

/-- The value under a name when letter case does not count. -/
def getFolded? (name : Text) (headers : Headers) : Option Text :=
  (headers.find? fun header => sameName header.1 name).map (·.2)

def jsonMediaType : Text := "application/json"

/-- The media type of JSON, with the version when that is known. -/
def mediaType (version : Option Text) : Text :=
  match version with
  | none | some [] => jsonMediaType
  | some v => jsonMediaType ++ ";version=" ++ v

/-- The default headers, with both sides of the content negotiation set to the media type. -/
def negotiating (version : Option Text) (defaults : Option Headers) : Headers :=
  ((defaults.getD []).put accept (mediaType version)).put contentType (mediaType version)

end Headers

end StorageGateway
