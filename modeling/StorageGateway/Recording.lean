import StorageGateway.Call

/-! Answers of a gateway that were kept as JSON objects, with the fields `status`, `reason`,
`charset`, `headers` (pairs) and `body`. What has no status stands for a gateway that could not be
reached. -/
namespace StorageGateway.Recording

def headerOf : Json → Option (Text × Text)
  | .arr [.str name, .str value] => some (name, value)
  | _ => none

def headersOf : Json → Headers
  | .arr items => Headers.folded (items.filterMap headerOf)
  | _ => []

def textField (name : Text) (v : Json) : Option Text := (v.field? name).bind Json.text?

def replyOf (status : Int) (v : Json) : Reply where
  status := status
  reason := textField "reason" v
  charset := textField "charset" v
  headers := ((v.field? "headers").map headersOf).getD []
  body := ((textField "body" v).map Bytes.Utf8.encode).getD []

def answerOf (v : Json) : Answer :=
  match v.field? "status" with
  | some (.int status) => .reply (replyOf status v)
  | _ => .unreachable .connection ((textField "message" v).getD [])

/-- The answer on a line; a line that is no JSON counts as no answer. -/
def answerOn (line : Text) : Answer :=
  match Json.read line with
  | .ok v => answerOf v
  | .error _ => .unreachable .unspecified []

end StorageGateway.Recording
