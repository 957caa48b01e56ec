import DocScan.Text.Basic

/-!
# Texts that are not JSON

What is wrong with a text that is not JSON and where it shows: the line and the column of the first
character that fits nowhere, or the end of the text. Columns count octets.
-/

namespace DocScan.Json

inductive Fault where
  | openArray
  | openObject
  | openText
  | openValue
  | noColon
  | noItemMark
  | noMemberMark
  | misspelled
  | noValue
  | badEscape
  | badNumber
  | longNumber
  | bareControl
  | bareName
  | loneSurrogate
  | trailingComma
  | trailingText
  | openPair
  | tooDeep
deriving DecidableEq, Repr

def Fault.message : Fault → Text
  | .openArray => "EOF while parsing a list".toList
  | .openObject => "EOF while parsing an object".toList
  | .openText => "EOF while parsing a string".toList
  | .openValue => "EOF while parsing a value".toList
  | .noColon => "expected `:`".toList
  | .noItemMark => "expected `,` or `]`".toList
  | .noMemberMark => "expected `,` or `\x7d`".toList
  | .misspelled => "expected ident".toList
  | .noValue => "expected value".toList
  | .badEscape => "invalid escape".toList
  | .badNumber => "invalid number".toList
  | .longNumber => "number out of range".toList
  | .bareControl =>
    "control character (\\u0000-\\u001F) found while parsing a string".toList
  | .bareName => "key must be a string".toList
  | .loneSurrogate => "lone leading surrogate in hex escape".toList
  | .trailingComma => "trailing comma".toList
  | .trailingText => "trailing characters".toList
  | .openPair => "unexpected end of hex escape".toList
  | .tooDeep => "recursion limit exceeded".toList

/-! ## Places -/

/-- A place in a text: the line, counted from one, and the number of octets that the last character
ends behind. -/
structure Place where
  line : Nat
  column : Nat
deriving DecidableEq, Repr

namespace Place

def origin : Place := { line := 1, column := 0 }

/-- The place behind one more character. A line feed belongs to the line that it starts. -/
def past (place : Place) (c : Char) : Place :=
  if c = '\n' then { line := place.line + 1, column := 0 }
  else { place with column := place.column + c.utf8Size }

def ofSplit (front back : Text) : Place :=
  let place := front.foldl past origin
  match back with
  | [] => place
  | '\n' :: _ => place.past '\n'
  | _ => { place with column := place.column + 1 }

end Place

structure Refusal where
  fault : Fault
  place : Place
deriving DecidableEq, Repr

def Refusal.message (refusal : Refusal) : Text :=
  refusal.fault.message ++ " at line ".toList ++ Text.ofNat refusal.place.line ++
    " column ".toList ++ Text.ofNat refusal.place.column

end DocScan.Json
