import StorageGateway.Text.Basic

/-! The commands, and the options that each of them knows. -/
namespace StorageGateway.CommandLine

inductive Opt where
  | endpoint
  | username
  | password
  | version
  | insecure
  | useCerts
  | cert
  | timeout
  | showHttp
  | json
  | data
  deriving DecidableEq

namespace Opt

def long : Opt → Text
  | endpoint => "--endpoint"
  | username => "--username"
  | password => "--password"
  | version => "--version"
  | insecure => "--insecure"
  | useCerts => "--use-certs"
  | cert => "--cert"
  | timeout => "--timeout"
  | showHttp => "--show-http"
  | json => "--json"
  | data => "--data"

/-- The letter of the short form. -/
def letter? : Opt → Option CodePoint
  | endpoint => some (CodePoint.ofChar 'e')
  | username => some (CodePoint.ofChar 'u')
  | password => some (CodePoint.ofChar 'p')
  | json => some (CodePoint.ofChar 'j')
  | data => some (CodePoint.ofChar 'd')
  | _ => none

/-- The environment variable that stands in for the option. -/
def envName? : Opt → Option Text
  | endpoint => some "POWERFLEX_ENDPOINT"
  | username => some "POWERFLEX_USERNAME"
  | password => some "POWERFLEX_PASSWORD"
  | version => some "POWERFLEX_VERSION"
  | insecure => some "POWERFLEX_INSECURE"
  | useCerts => some "POWERFLEX_USECERTS"
  | cert => some "POWERFLEX_CA_CERT"
  | showHttp => some "POWERFLEX_SHOWHTTP"
  | timeout | json | data => none

/-- Whether a value follows; the other options are there or not. -/
def takesValue : Opt → Bool
  | insecure | useCerts | showHttp | json => false
  | _ => true

/-- The short form of an option with this letter. -/
def short (letter : CodePoint) : Text := [CodePoint.hyphen, letter]

/-- How a message refers to the option. -/
def hint (o : Opt) : Text :=
  let forms := o.long :: (o.letter?.map short).toList
  let quoted := forms.map fun form => [CodePoint.apostrophe] ++ form ++ [CodePoint.apostrophe]
  let named : Text := match o.envName? with
    | some name => " (env var: '" ++ name ++ "')"
    | none => []
  Text.joinWith " / " quoted ++ named

end Opt

inductive Command where
  | version
  | listSystems
  | listVolumes
  | request
  deriving DecidableEq

namespace Command

/-- The options that reach and set up a client. -/
def clientOptions : List Opt :=
  [.endpoint, .username, .password, .version, .insecure, .useCerts, .cert, .timeout, .showHttp]

/-- The options of a command in the order in which they are looked at. -/
def options : Command → List Opt
  | version => clientOptions
  | listSystems | listVolumes => clientOptions ++ [.json]
  | request => .data :: clientOptions

def methodWord : Text := "METHOD"

def pathWord : Text := "PATH"

/-- The words that a command wants besides its options. -/
def words : Command → List Text
  | request => [methodWord, pathWord]
  | _ => []

end Command

end StorageGateway.CommandLine
