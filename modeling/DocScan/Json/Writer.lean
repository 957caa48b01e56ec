import DocScan.Json.Value

/-!
# Writing JSON

A `Style` settles what the standard leaves open: which characters are escaped, the marks between
items and after names, indentation, and the setting of numbers.
-/

namespace DocScan.Json

/-! ## Styles -/

structure Style where
  /-- Characters beyond ASCII are escaped. -/
  ascii : Bool
  betweenItems : Text
  afterName : Text
  /-- The number of spaces of one level, when every item has a line of its own. -/
  indent : Option Nat
  numbers : Decimal.Layout

def asciiStyle : Style :=
  { ascii := true, betweenItems := [',', ' '], afterName := [':', ' '], indent := none
    numbers := { literalLayout with
      infinity := "Infinity".toList, negativeInfinity := "-Infinity".toList
      undefined := "NaN".toList } }

/-- ASCII with one item a line, each level two spaces deep. -/
def indentedStyle : Style :=
  { asciiStyle with betweenItems := [','], indent := some 2 }

/-- One line without spaces that escapes nothing but quotes, backslashes and control characters. -/
def compactStyle : Style :=
  { ascii := false, betweenItems := [','], afterName := [':'], indent := none
    numbers :=
      { positionalAbove := -5, positionalUpTo := 16, plus := false, exponentWidth := 1
        infinity := "null".toList, negativeInfinity := "null".toList
        undefined := "null".toList } }

/-! ## Texts -/

def unitEscape (unit : Nat) : Text := '\\' :: 'u' :: Text.hex 4 unit

/-- One character inside a JSON string. A character above the basic plane is two escapes, a leading
and a trailing surrogate. -/
def escapeChar (ascii : Bool) (c : Char) : Text :=
  if c = '"' then ['\\', '"']
  else if c = '\\' then ['\\', '\\']
  else if c = '\n' then ['\\', 'n']
  else if c = '\r' then ['\\', 'r']
  else if c = '\t' then ['\\', 't']
  else if c.toNat = 8 then ['\\', 'b']
  else if c.toNat = 12 then ['\\', 'f']
  else if c.toNat < 0x20 then unitEscape c.toNat
  else if ascii ∧ 0x7F ≤ c.toNat then
    if c.toNat < 0x10000 then unitEscape c.toNat
    else
      let above := c.toNat - 0x10000
      unitEscape (0xD800 + above / 0x400) ++ unitEscape (0xDC00 + above % 0x400)
  else [c]

def writeText (ascii : Bool) (text : Text) : Text :=
  '"' :: text.flatMap (escapeChar ascii) ++ ['"']

/-! ## Values -/

/-- The start of a line at some depth; nothing when the style keeps to one line. -/
def Style.newLine (style : Style) (depth : Nat) : Text :=
  match style.indent with
  | none => []
  | some spaces => '\n' :: List.replicate (spaces * depth) ' '

/-- Written items between brackets. There is no line break inside empty brackets. -/
def bracketed (style : Style) (depth : Nat) (opening closing : Char) (items : List Text) : Text :=
  match items with
  | [] => [opening, closing]
  | _ =>
    opening :: style.newLine (depth + 1) ++
      Text.join (style.betweenItems ++ style.newLine (depth + 1)) items ++
      style.newLine depth ++ [closing]

mutual

def Value.writeAt (style : Style) (depth : Nat) : Value → Text
  | .null => "null".toList
  | .bool true => "true".toList
  | .bool false => "false".toList
  | .int number => Text.ofInt number
  | .float number => Decimal.text style.numbers number
  | .text content => writeText style.ascii content
  | .array items => bracketed style depth '[' ']' (writeItems style (depth + 1) items)
  | .object members => bracketed style depth '{' '}' (writeMembers style (depth + 1) members)

def writeItems (style : Style) (depth : Nat) : List Value → List Text
  | [] => []
  | item :: rest => item.writeAt style depth :: writeItems style depth rest

def writeMembers (style : Style) (depth : Nat) : List (Text × Value) → List Text
  | [] => []
  | (name, value) :: rest =>
    (writeText style.ascii name ++ style.afterName ++ value.writeAt style depth) ::
      writeMembers style depth rest

end

def Value.write (style : Style) (value : Value) : Text := value.writeAt style 0

end DocScan.Json
