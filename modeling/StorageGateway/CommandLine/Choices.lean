import StorageGateway.CommandLine.Words
import StorageGateway.Settings

/-! What a user has chosen: a value on the command line counts before one in the environment. -/
namespace StorageGateway.CommandLine

structure Choices where
  endpoint : Text
  username : Option Text
  password : Option Text
  version : Option Text
  insecure : Bool
  useTrustStore : Bool
  certificate : Option Text
  timeout : Binary64
  showHttp : Bool
  json : Bool
  data : Option Text
  method : Text
  path : Text

/-- The words for yes. -/
def yesWords : List Text := ["1", "true", "t", "yes", "y", "on"]

/-- The words for no. -/
def noWords : List Text := ["0", "false", "f", "no", "n", "off"]

def truthValue? (word : Text) : Option Bool :=
  let w := word.trim.lower
  if w ∈ yesWords then some true else if w ∈ noWords then some false else none

/-- The value of a variable; an empty one is not set. -/
def environmental? (env : Settings.Environment) (o : Opt) : Option Text :=
  (o.envName?.bind env.get?).filter (· ≠ [])

/-- The value that was given last on the command line. -/
def Given.last? (g : Given) (o : Opt) : Option Text :=
  (g.options.reverse.find? (·.1 == o)).map (·.2)

def chosenText? (env : Settings.Environment) (g : Given) (o : Opt) : Option Text :=
  (g.last? o).or (environmental? env o)

def chosenFlag (env : Settings.Environment) (g : Given) (o : Opt) : Except Misuse Bool :=
  if (g.last? o).isSome then .ok true
  else match environmental? env o with
    | none => .ok false
    | some word =>
      match truthValue? word with
      | some b => .ok b
      | none => .error (.notATruthValue o word)

def chosenTimeout (env : Settings.Environment) (g : Given) : Except Misuse Binary64 :=
  match chosenText? env g .timeout with
  | none => .ok Settings.defaultTimeout
  | some word =>
    match Binary64.read? word with
    | some x => .ok x
    | none => .error (.notANumber .timeout word)

/-- What a command line has to settle: the value of an option, or a plain word by its place. -/
inductive Parameter where
  | option (o : Opt)
  | word (index : Nat) (name : Text)
  deriving DecidableEq

/-- The parameters in the order in which they are settled: given options, words, the rest. -/
def settlingOrder (command : Command) (g : Given) : List Parameter :=
  g.options.map (.option ·.1) ++
    (command.words.zipIdx.map fun (name, index) => Parameter.word index name) ++
    command.options.map .option

/-- Whether a parameter can be settled. -/
def settle (env : Settings.Environment) (g : Given) : Parameter → Except Misuse Unit
  | .word index name => if index < g.words.length then .ok () else .error (.missingWord name)
  | .option o =>
    match o with
    | .endpoint =>
      if (chosenText? env g .endpoint).isSome then .ok () else .error (.missingOption .endpoint)
    | .timeout => (chosenTimeout env g).map fun _ => ()
    | o => if o.takesValue then .ok () else (chosenFlag env g o).map fun _ => ()

/-- The choices of a user. Of several misuses the first in settling order counts, and words too many
come last. -/
def Choices.ofGiven (command : Command) (env : Settings.Environment) (g : Given) :
    Except Misuse Choices := do
  let extra := g.words.drop command.words.length
  (settlingOrder command g).forM (settle env g)
  if extra ≠ [] then .error (.extraWords extra)
  else
    return {
      endpoint := (chosenText? env g .endpoint).getD []
      username := chosenText? env g .username
      password := chosenText? env g .password
      version := chosenText? env g .version
      insecure := ← chosenFlag env g .insecure
      useTrustStore := ← chosenFlag env g .useCerts
      certificate := chosenText? env g .cert
      timeout := ← chosenTimeout env g
      showHttp := ← chosenFlag env g .showHttp
      json := ← chosenFlag env g .json
      data := chosenText? env g .data
      method := g.words.headD []
      path := (g.words.drop 1).headD [] }

end StorageGateway.CommandLine
