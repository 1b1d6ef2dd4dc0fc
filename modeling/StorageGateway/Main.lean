import StorageGateway.CommandLine.Perform
import StorageGateway.Recording

/-! The command line. The answers of the gateway are read from standard input, one on a line; this
is the only module that reads or writes anything. -/
namespace StorageGateway.CommandLine

/-- The variables that are set, of those that stand in for options. -/
def readEnvironment : IO Settings.Environment := do
  let names := Command.clientOptions.filterMap Opt.envName?
  let found ← names.mapM fun name => do
    return (← IO.getEnv name.toString).map fun value => (name, Text.ofString value)
  return found.filterMap id

def readScript : IO (List Answer) := do
  let input ← IO.getStdin
  let mut answers : Array Answer := #[]
  repeat
    let line ← input.getLine
    if line.isEmpty then break
    answers := answers.push (Recording.answerOn (Text.ofString line))
  return answers.toList

/-- Whether something of this name can be opened. -/
def canOpen (path : Text) : IO Bool := do
  match ← (IO.FS.Handle.mk path.toString .read).toBaseIO with
  | .ok _ => return true
  | .error _ => return false

/-- The path whose presence a command line asks about. -/
def askedPath? (env : Settings.Environment) (home? : Text → Option Text) (words : List Text) :
    Option Text :=
  match understand env words with
  | .ok (_, choices) => ((choices.certificatePath? home?).toOption).join
  | .error _ => none

def tableText (t : Listing.Table) : Text :=
  let rows := [t.title] :: t.columns.map (·.1) :: t.rows
  (rows.map fun cells => Text.joinWith "\t" cells ++ [CodePoint.newline]).flatten

/-- What is said about an ending that no report explains. -/
def Ending.complaint : Ending → Text
  | misused m => m.message ++ [CodePoint.newline]
  | broken fault => fault.text ++ [CodePoint.newline]
  | finished | failed => []

def misuseStatus : Nat := 2

end StorageGateway.CommandLine

open StorageGateway StorageGateway.CommandLine in
def main (arguments : List String) : IO UInt32 := do
  let words := arguments.map Text.ofString
  let environment ← readEnvironment
  let home := (← IO.getEnv "HOME").map Text.ofString
  let home? : Text → Option Text := fun name => if name = [] then home else none
  let asked := askedPath? environment home? words
  let found ← (asked.map canOpen).getD (pure false)
  let trusted := (← IO.getEnv "SSL_CERT_FILE").map Text.ofString
  let result := run {
    environment
    store := { file := trusted }
    codecs := .listed
    isThere := fun path => found && asked == some path
    home?
    script := ← readScript } words
  IO.print result.standardOutput.toString
  IO.print (Text.toString (result.tables.flatMap tableText))
  IO.eprint (result.standardError ++ result.ending.complaint).toString
  return (result.ending.status?.getD misuseStatus).toUInt32
