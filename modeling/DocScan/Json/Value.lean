import DocScan.Decimal.Shortest
import DocScan.Text.Literal
import DocScan.Text.Named

/-!
# JSON values

A value as a document or a caller gives it. Whole numbers have no size limit and differ from
floating-point ones, an object keeps its members in order, and no name occurs twice in it.
-/

namespace DocScan.Json

inductive Value where
  | null
  | bool (flag : Bool)
  | int (number : Int)
  | float (number : Binary64)
  | text (content : Text)
  | array (items : List Value)
  | object (members : List (Text × Value))
deriving Repr

def Value.typeName : Value → Text
  | .null => "NoneType".toList
  | .bool _ => "bool".toList
  | .int _ => "int".toList
  | .float _ => "float".toList
  | .text _ => "str".toList
  | .array _ => "list".toList
  | .object _ => "dict".toList

/-! ## Members of an object -/

abbrev Members := List (Text × Value)

def Members.find? (members : Members) (name : Text) : Option Value := members.lookup name

/-- A value stored under a name: in the place of an earlier value of that name, else at the end. -/
def Members.insert (members : Members) (name : Text) (value : Value) : Members :=
  Named.put name value members

/-! ## Literals -/

/-- Numbers in literals: positional below ten to the sixteenth and down to the fourth decimal place,
otherwise with a signed exponent of at least two digits. -/
def literalLayout : Decimal.Layout :=
  { positionalAbove := -4, positionalUpTo := 16, plus := true, exponentWidth := 2
    infinity := "inf".toList, negativeInfinity := "-inf".toList, undefined := "nan".toList }

mutual

def Value.literal : Value → Text
  | .null => "None".toList
  | .bool true => "True".toList
  | .bool false => "False".toList
  | .int number => Text.ofInt number
  | .float number => Decimal.text literalLayout number
  | .text content => Text.literal content
  | .array items => '[' :: Text.join [',', ' '] (literals items) ++ [']']
  | .object members => '{' :: Text.join [',', ' '] (memberLiterals members) ++ ['}']

def literals : List Value → List Text
  | [] => []
  | item :: rest => item.literal :: literals rest

def memberLiterals : List (Text × Value) → List Text
  | [] => []
  | (name, value) :: rest =>
    (Text.literal name ++ ':' :: ' ' :: value.literal) :: memberLiterals rest

end

/-- A value shown by itself rather than as a literal: a text is its own display. -/
def Value.display : Value → Text
  | .text content => content
  | value => value.literal

end DocScan.Json
