import StorageGateway.CommandLine.Command
import StorageGateway.Fault

/-! What may be wrong with the words of a command line. -/
namespace StorageGateway.CommandLine

inductive Misuse where
  | missingCommand
  | unknownCommand (name : Text)
  | unknownOption (name : Text)
  | valueMissing (name : Text)
  | valueNotTaken (name : Text)
  | extraWords (words : List Text)
  | missingOption (o : Opt)
  | missingWord (name : Text)
  | notANumber (o : Opt) (value : Text)
  | notATruthValue (o : Opt) (value : Text)
  | dataNotJson (error : Json.ReadError)
  | credentialsMissing
  | certificateMissing
  | certificateUnused

namespace Misuse

def invalidValue : Text := "Invalid value"

def message : Misuse → Text
  | missingCommand => "Missing command."
  | unknownCommand name => "No such command " ++ name.quoted ++ "."
  | unknownOption name => "No such option: " ++ name
  | valueMissing name => "Option " ++ name.quoted ++ " requires an argument."
  | valueNotTaken name => "Option " ++ name.quoted ++ " does not take a value."
  | extraWords words =>
    (if words.length = 1 then ("Got unexpected extra argument (" : Text)
      else "Got unexpected extra arguments (") ++ Text.joinWith " " words ++ ")"
  | missingOption o => "Missing option " ++ o.hint ++ "."
  | missingWord name => "Missing argument '" ++ name ++ "'."
  | notANumber o value =>
    invalidValue ++ " for " ++ o.hint ++ ": " ++ value.quoted ++ " is not a valid float."
  | notATruthValue o value =>
    invalidValue ++ " for " ++ o.hint ++ ": " ++ value.quoted ++ " is not a valid boolean."
  | dataNotJson error => invalidValue ++ ": --data is not valid JSON: " ++ error.message
  | credentialsMissing => invalidValue ++ ": --username and --password are required."
  | certificateMissing => invalidValue ++ ": Certificate file not found for --cert option."
  | certificateUnused => invalidValue ++ ": Cannot combine --cert with --insecure."

/-- What the misuse was noticed by. -/
def cause? : Misuse → Option Mishap
  | dataNotJson error => some (.ofReadError error)
  | _ => none

end Misuse

end StorageGateway.CommandLine
