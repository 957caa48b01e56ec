import DocScan.Command.Grammar
import DocScan.Log.Level
import DocScan.Text.Literal

/-!
# Usage faults

What is wrong with a command line, in the words that its writer gets to see.
-/

namespace DocScan.Command

inductive Complaint where
  | missingCommand
  | unknownCommand (name : Text)
  | misuse (misuse : Misuse)
  | badLevel
  | badFormat (given : Text) (choices : List Text)
  | missingArgument (name : Text)
  | extraArguments (words : List Text)
deriving DecidableEq, Repr

structure UsageFault where
  complaint : Complaint
  suggestions : List Text := []
deriving DecidableEq, Repr

def listed (items : List Text) : Text := Text.join [',', ' '] items

def Complaint.text : Complaint → Text
  | .missingCommand => "Missing command.".toList
  | .unknownCommand name => "No such command ".toList ++ Text.literal name ++ ['.']
  | .misuse (.unknown name _) => "No such option: ".toList ++ name
  | .misuse (.unexpectedValue name) =>
    "Option ".toList ++ Text.literal name ++ " does not take a value.".toList
  | .misuse (.missingValue name) =>
    "Option ".toList ++ Text.literal name ++ " requires an argument.".toList
  | .badLevel =>
    "Invalid value for --log-level: must be one of ".toList ++ listed Log.Level.names
  | .badFormat given choices =>
    "Invalid value for '--format' / '-f': Value error, ".toList ++ Text.literal given ++
      " is not one of ".toList ++ listed (choices.map Text.literal) ++ ['.']
  | .missingArgument name => "Missing argument '".toList ++ name ++ "'.".toList
  | .extraArguments words =>
    "Got unexpected extra argument(s) (".toList ++ Text.join [' '] words ++ [')']

def Complaint.possibilities : Complaint → Text
  | .misuse (.unknown _ similar) =>
    if similar = [] then []
    else " (Possible options: ".toList ++ listed (Text.sorted similar) ++ [')']
  | _ => []

def withoutPoints (text : Text) : Text := (text.reverse.dropWhile (· = '.')).reverse

def UsageFault.message (fault : UsageFault) : Text :=
  let text := fault.complaint.text
  let asked :=
    if fault.suggestions = [] then text
    else withoutPoints text ++ ". Did you mean ".toList ++
      listed (fault.suggestions.map Text.literal) ++ ['?']
  asked ++ fault.complaint.possibilities

end DocScan.Command
