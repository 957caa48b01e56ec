import DocScan.Json.Fault

/-!
# Validation issues

A value that does not fit is reported as an issue: where it stands and what is wrong with it.
Several issues are reported together, in the order of the fields.
-/

namespace DocScan

inductive Fault where
  | missing
  | notText
  | notFlag
  | unreadableFlag
  | notInteger
  | unreadableInteger
  | fractional
  | oversizedInteger
  | infinite
  | tooSmall
  | frozen
  | notObject
  | notJson (refusal : Json.Refusal)
  | unknownLevel (names : List Text)
deriving DecidableEq, Repr

namespace Fault

def code : Fault → Text
  | .missing => "missing".toList
  | .notText => "string_type".toList
  | .notFlag => "bool_type".toList
  | .unreadableFlag => "bool_parsing".toList
  | .notInteger => "int_type".toList
  | .unreadableInteger => "int_parsing".toList
  | .fractional => "int_from_float".toList
  | .oversizedInteger => "int_parsing_size".toList
  | .infinite => "finite_number".toList
  | .tooSmall => "greater_than_equal".toList
  | .frozen => "frozen_instance".toList
  | .notObject => "model_type".toList
  | .notJson _ => "json_invalid".toList
  | .unknownLevel _ => "value_error".toList

def message : Fault → Text
  | .missing => "Field required".toList
  | .notText => "Input should be a valid string".toList
  | .notFlag => "Input should be a valid boolean".toList
  | .unreadableFlag => "Input should be a valid boolean, unable to interpret input".toList
  | .notInteger => "Input should be a valid integer".toList
  | .unreadableInteger =>
    "Input should be a valid integer, unable to parse string as an integer".toList
  | .fractional => "Input should be a valid integer, got a number with a fractional part".toList
  | .oversizedInteger =>
    "Unable to parse input string as an integer, exceeded maximum size".toList
  | .infinite => "Input should be a finite number".toList
  | .tooSmall => "Input should be greater than or equal to 1".toList
  | .frozen => "Instance is frozen".toList
  | .notObject => "Input should be an object".toList
  | .notJson refusal => "Invalid JSON: ".toList ++ refusal.message
  | .unknownLevel names =>
    "Value error, log_level must be one of ".toList ++ Text.join [',', ' '] names

end Fault

structure Issue where
  location : List Text
  fault : Fault
deriving DecidableEq, Repr

namespace Issue

def onField (name : Text) (fault : Fault) : Issue := { location := [name], fault }

def ofWhole (fault : Fault) : Issue := { location := [], fault }

def ofCheck {α : Type} : Except Issue α → List Issue
  | .error issue => [issue]
  | .ok _ => []

def text (issue : Issue) : Text :=
  Text.join ['.'] issue.location ++ [':', ' '] ++ issue.fault.message

def summary (issues : List Issue) : Text := Text.join [';', ' '] (issues.map text)

end Issue

end DocScan
