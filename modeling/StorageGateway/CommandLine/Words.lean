import StorageGateway.CommandLine.Misuse

/-! Telling commands, options and plain words apart. -/
namespace StorageGateway.CommandLine

def endOfOptions : Text := "--"

/-- A word that starts with a hyphen and goes on. -/
def isOption (word : Text) : Bool :=
  match word with
  | c :: _ :: _ => c == CodePoint.hyphen
  | _ => false

def isLong (word : Text) : Bool := endOfOptions.isPrefixOf word

/-- The name in a word that is no option anybody knows. -/
def optionName (word : Text) : Text :=
  if isLong word then (word.splitFirst? CodePoint.equalsSign).elim word (·.1) else word.take 2

/-- The first word that is no option, and what follows it. -/
def leadingWord : List Text → Except Misuse (Text × List Text)
  | [] => .error .missingCommand
  | word :: words =>
    if word = endOfOptions then
      match words with
      | [] => .error .missingCommand
      | next :: rest => .ok (next, rest)
    else if isOption word then .error (.unknownOption (optionName word))
    else .ok (word, words)

def listWord : Text := "list"

/-- A command of a group that has only one. -/
def listCommand (command : Command) (words : List Text) : Except Misuse (Command × List Text) := do
  let (word, rest) ← leadingWord words
  if word = listWord then return (command, rest) else .error (.unknownCommand word)

/-- The command that is called, and its own words. -/
def select (words : List Text) : Except Misuse (Command × List Text) := do
  let (word, rest) ← leadingWord words
  if word = Text.ofString "version" then return (.version, rest)
  else if word = Text.ofString "systems" then listCommand .listSystems rest
  else if word = Text.ofString "volumes" then listCommand .listVolumes rest
  else if word = Text.ofString "request" then return (.request, rest)
  else .error (.unknownCommand word)

/-- What the words of a command give: options with their values, in order, and plain words. An
option that takes no value has an empty one. -/
structure Given where
  options : List (Opt × Text) := []
  words : List Text := []

namespace Given

def withOptions (more : List (Opt × Text)) (g : Given) : Given :=
  { g with options := more ++ g.options }

def withWord (word : Text) (g : Given) : Given := { g with words := word :: g.words }

end Given

/-- An option that waits for its value, under the name that it was called by. -/
structure Waiting where
  option : Opt
  name : Text

def findLong (command : Command) (name : Text) : Option Opt :=
  command.options.find? (·.long == name)

def findShort (command : Command) (letter : CodePoint) : Option Opt :=
  command.options.find? (·.letter? == some letter)

/-- Reads letters that stand together: of one that takes a value the rest is the value, and if
there is no rest the next word is. -/
def readLetters (command : Command) :
    Text → Except Misuse (List (Opt × Text) × Option Waiting)
  | [] => .ok ([], none)
  | letter :: rest =>
    match findShort command letter with
    | none => .error (.unknownOption (Opt.short letter))
    | some o =>
      if o.takesValue then
        if rest = [] then .ok ([], some ⟨o, Opt.short letter⟩) else .ok ([(o, rest)], none)
      else (readLetters command rest).map fun (options, waiting) => ((o, []) :: options, waiting)

/-- Reads a word that is an option, with the value after an equals sign if it has one. -/
def readOption (command : Command) (word : Text) :
    Except Misuse (List (Opt × Text) × Option Waiting) :=
  let parts := word.splitFirst? CodePoint.equalsSign
  let name := parts.elim word (·.1)
  match findLong command name with
  | some o =>
    match parts, o.takesValue with
    | some (_, value), true => .ok ([(o, value)], none)
    | some _, false => .error (.valueNotTaken name)
    | none, true => .ok ([], some ⟨o, name⟩)
    | none, false => .ok ([(o, [])], none)
  | none =>
    if isLong word then .error (.unknownOption name) else readLetters command (word.drop 1)

/-- Reads the words of a command. After two hyphens alone all words are plain. -/
def scan (command : Command) : Option Waiting → List Text → Except Misuse Given
  | none, [] => .ok {}
  | some waiting, [] => .error (.valueMissing waiting.name)
  | some waiting, word :: words =>
    (scan command none words).map (·.withOptions [(waiting.option, word)])
  | none, word :: words =>
    if word = endOfOptions then .ok { words }
    else if isOption word then do
      let (options, waiting) ← readOption command word
      return (← scan command waiting words).withOptions options
    else (scan command none words).map (·.withWord word)

end StorageGateway.CommandLine
