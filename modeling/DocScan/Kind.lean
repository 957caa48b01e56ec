import DocScan.Json.Value

/-!
# Schema kinds

The seven kinds of JSON schema that a type can have, their labels, and the table of the primitive
types. A type of the standard package is in the table under its short and its qualified name.
-/

namespace DocScan

inductive Kind where
  | enumeration
  | array
  | string
  | boolean
  | integer
  | number
  | object
deriving DecidableEq, Repr

namespace Kind

def all : List Kind := [enumeration, array, string, boolean, integer, number, object]

def label : Kind → Text
  | enumeration => "enum".toList
  | array => "array".toList
  | string => "string".toList
  | boolean => "boolean".toList
  | integer => "integer".toList
  | number => "number".toList
  | object => "object".toList

def name (kind : Kind) : Text := kind.label.map Char.toUpper

def ofLabel? (label : Text) : Option Kind := all.find? fun kind => kind.label == label

/-- The kind that a value is the label of. A value that is no text is no label. -/
def ofValue? : Json.Value → Option Kind
  | .text label => ofLabel? label
  | _ => none

def invalidMessage (value : Json.Value) : Text :=
  value.literal ++ " is not a valid SchemaKind".toList

theorem ofLabel?_label (kind : Kind) : ofLabel? kind.label = some kind := by
  cases kind <;> decide

/-! ## Primitive types -/

def standardPackage : Text := "java.lang.".toList

/-- A type of the standard package under both of its names. -/
def bothNames (short : Text) (kind : Kind) : List (Text × Kind) :=
  [(short, kind), (standardPackage ++ short, kind)]

/-- The kinds of the primitive types. Bytes travel as one encoded string; every other array of the
table is an array. Names differ by case. -/
def primitives : List (Text × Kind) :=
  bothNames "byte[]".toList string ++
  bothNames "Byte[]".toList array ++
  bothNames "Object[]".toList array ++
  bothNames "String[]".toList array ++
  bothNames "String".toList string ++
  bothNames "Boolean".toList boolean ++
  [("boolean".toList, boolean)] ++
  bothNames "Integer".toList integer ++
  [("int".toList, integer)] ++
  bothNames "Long".toList integer ++
  [("long".toList, integer)] ++
  bothNames "Short".toList integer ++
  [("short".toList, integer)] ++
  bothNames "Byte".toList integer ++
  [("byte".toList, integer)] ++
  bothNames "Float".toList number ++
  [("float".toList, number)] ++
  bothNames "Double".toList number ++
  [("double".toList, number)]

def primitive? (name : Text) : Option Kind := primitives.lookup name

theorem primitives_ne (name : Text) (kind : Kind) (listed : (name, kind) ∈ primitives) :
    kind ≠ enumeration ∧ kind ≠ object := by
  have entries : ∀ entry ∈ primitives, entry.2 ≠ enumeration ∧ entry.2 ≠ object := by decide
  exact entries (name, kind) listed

end Kind

end DocScan
