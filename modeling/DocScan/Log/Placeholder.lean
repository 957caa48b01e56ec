import DocScan.Decimal.Rounded
import DocScan.Json.Value

/-!
# Placeholders

A placeholder says how an argument is shown: what it is taken as, how many digits or characters it
has, and how it is padded. Not every value can be shown in every way.
-/

namespace DocScan.Log

inductive Conversion where
  | display
  | literal
  /-- A literal in which nothing beyond ASCII shows as itself. -/
  | asciiLiteral
  | character
  | decimal
  | octal
  | hexadecimal (capital : Bool)
  | floating (form : Decimal.Rounded.Form) (capital : Bool)
deriving DecidableEq, Repr

def Conversion.ofLetter? : Char → Option Conversion
  | 's' => some .display
  | 'r' => some .literal
  | 'a' => some .asciiLiteral
  | 'c' => some .character
  | 'd' | 'i' | 'u' => some .decimal
  | 'o' => some .octal
  | 'x' => some (.hexadecimal false)
  | 'X' => some (.hexadecimal true)
  | 'e' => some (.floating .scientific false)
  | 'E' => some (.floating .scientific true)
  | 'f' => some (.floating .fixed false)
  | 'F' => some (.floating .fixed true)
  | 'g' => some (.floating .general false)
  | 'G' => some (.floating .general true)
  | _ => none

structure Flags where
  /-- The text stands on the left of its field. -/
  left : Bool := false
  /-- A positive number has a sign. -/
  plus : Bool := false
  /-- A positive number has a space in the place of a sign. -/
  blank : Bool := false
  /-- The base of a number is named, and its point is kept. -/
  explicit : Bool := false
  /-- A number is padded with zeros. -/
  zeros : Bool := false
deriving DecidableEq, Repr

def Flags.add? (flags : Flags) : Char → Option Flags
  | '-' => some { flags with left := true }
  | '+' => some { flags with plus := true }
  | ' ' => some { flags with blank := true }
  | '#' => some { flags with explicit := true }
  | '0' => some { flags with zeros := true }
  | _ => none

/-! ## Padding -/

/-- A text padded to a width. Zeros stand behind what leads the text, spaces in front of it. -/
def pad (left zeros : Bool) (width : Nat) (lead body : Text) : Text :=
  let missing := width - (lead.length + body.length)
  if left then lead ++ body ++ List.replicate missing ' '
  else if zeros then lead ++ List.replicate missing '0' ++ body
  else List.replicate missing ' ' ++ lead ++ body

def Flags.sign (flags : Flags) (negative : Bool) : Text :=
  if negative then ['-'] else if flags.plus then ['+'] else if flags.blank then [' '] else []

def capitals (capital : Bool) (text : Text) : Text :=
  if capital then text.map Char.toUpper else text

/-! ## Values -/

def whole? : Json.Value → Option Int
  | .int number => some number
  | .bool flag => some (if flag then 1 else 0)
  | _ => none

def truncated? : Json.Value → Option Int
  | .float number => number.truncate?
  | value => whole? value

/-- A value as a floating-point number. A whole number may be too large to be one. -/
def floating? : Json.Value → Option Binary64
  | .float number => some number
  | value =>
    match (whole? value).map Binary64.ofInt with
    | some (.finite negative mantissa exponent) => some (.finite negative mantissa exponent)
    | _ => none

def character? : Json.Value → Option Char
  | .text [c] => some c
  | value =>
    match whole? value with
    | some (.ofNat code) => if code.isValidChar then some (Char.ofNat code) else none
    | _ => none

/-- A text whose characters beyond ASCII are given by code point. -/
def asciiOnly (text : Text) : Text :=
  text.flatMap fun c =>
    if c.toNat < 0x80 then [c]
    else if c.toNat < 0x100 then '\\' :: 'x' :: Text.hex 2 c.toNat
    else if c.toNat < 0x10000 then '\\' :: 'u' :: Text.hex 4 c.toNat
    else '\\' :: 'U' :: Text.hex 8 c.toNat

/-! ## Fields -/

structure Field where
  flags : Flags
  width : Nat := 0
  precision : Option Nat := none

/-- A text in a field. The precision cuts it. -/
def Field.ofText (field : Field) (text : Text) : Text :=
  pad field.flags.left false field.width [] (text.take (field.precision.getD text.length))

/-- A whole number in a field. The precision is the least number of digits. -/
def Field.ofWhole (field : Field) (base : Nat) (mark : Text) (number : Int) : Text :=
  let digits := Text.padLeft '0' (field.precision.getD 1) (Nat.toDigits base number.natAbs)
  let lead := field.flags.sign (decide (number < 0)) ++ if field.flags.explicit then mark else []
  pad field.flags.left field.flags.zeros field.width lead digits

/-- A floating-point number in a field. There are six places or digits unless the precision says
otherwise. -/
def Field.ofFloating (field : Field) (form : Decimal.Rounded.Form) (number : Binary64) : Text :=
  pad field.flags.left field.flags.zeros field.width
    (field.flags.sign (Decimal.Rounded.isNegative number))
    (Decimal.Rounded.magnitude form field.flags.explicit (field.precision.getD 6) number)

def Field.show? (field : Field) (conversion : Conversion) (value : Json.Value) : Option Text :=
  match conversion with
  | .display => some (field.ofText value.display)
  | .literal => some (field.ofText value.literal)
  | .asciiLiteral => some (field.ofText (asciiOnly value.literal))
  | .character =>
    (character? value).map fun c => pad field.flags.left false field.width [] [c]
  | .decimal => (truncated? value).map (field.ofWhole 10 [])
  | .octal => (whole? value).map (field.ofWhole 8 ['0', 'o'])
  | .hexadecimal capital =>
    (whole? value).map fun number => capitals capital (field.ofWhole 16 ['0', 'x'] number)
  | .floating form capital =>
    (floating? value).map fun number => capitals capital (field.ofFloating form number)

end DocScan.Log
