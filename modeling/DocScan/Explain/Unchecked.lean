import DocScan.Explain.Row
import DocScan.Json.Compare

/-!
# Unchecked rows

A row that is put together from fields is not checked, so any value may stand in a field. Such rows
are triples: they have positions, and they are compared field by field.
-/

namespace DocScan.Explain.OptionRow

structure Unchecked where
  name : Json.Value
  value : Json.Value
  description : Json.Value
deriving Repr

def toUnchecked (row : OptionRow) : Unchecked :=
  { name := .text row.name
    value := fieldJson row.value
    description := fieldJson row.description }

namespace Unchecked

/-! ## What can go wrong with a row -/

inductive Fault where
  | nameMissing
  | unknownField (name : Text)
  | takenName
  | noSuchPosition
  | readOnly
  | shared (name : Text)
  | noSuchField (name : Text)
  | incomparable (fault : Json.Incomparable)
deriving DecidableEq, Repr

def Fault.message : Fault → Text
  | .nameMissing => "OptionRow.__new__() missing 1 required positional argument: 'name'".toList
  | .unknownField name =>
    "OptionRow.__new__() got an unexpected keyword argument '".toList ++ name ++ ['\'']
  | .takenName => "OptionRow.__new__() got multiple values for argument '_cls'".toList
  | .noSuchPosition => "tuple index out of range".toList
  | .readOnly => "can't set attribute".toList
  | .shared name =>
    "'OptionRow' object attribute '".toList ++ name ++ "' is read-only".toList
  | .noSuchField name => "'OptionRow' object has no attribute '".toList ++ name ++ ['\'']
  | .incomparable fault => fault.message

/-! ## Making, reading and comparing rows -/

def ownName : Text := "_cls".toList

def nameFault? (name : Text) : Option Fault :=
  if name = ownName then some .takenName
  else if fieldNames.contains name then none
  else some (.unknownField name)

/-- A row from named fields. A bad name is reported before a missing one. -/
def ofFields (given : Json.Members) : Except Fault Unchecked :=
  match List.findSome? (fun field => nameFault? field.1) given with
  | some fault => .error fault
  | none =>
    match Json.Members.find? given nameField with
    | none => .error .nameMissing
    | some name =>
      .ok { name
            value := (Json.Members.find? given valueField).getD .null
            description := (Json.Members.find? given descriptionField).getD .null }

def fields (row : Unchecked) : List Json.Value := [row.name, row.value, row.description]

/-- The field at a position. Negative positions count from the end. -/
def get? (row : Unchecked) (position : Int) : Except Fault Json.Value :=
  let index := if position < 0 then position + 3 else position
  if index < 0 then .error .noSuchPosition
  else match row.fields[index.toNat]? with
    | some field => .ok field
    | none => .error .noSuchPosition

def sharedNames : List Text :=
  ["as_dict".toList, "count".toList, "index".toList, "_asdict".toList, "_fields".toList,
   "_field_defaults".toList, "_make".toList, "_replace".toList, "__doc__".toList,
   "__module__".toList, "__slots__".toList, "__annotations__".toList, "__len__".toList,
   "__iter__".toList, "__contains__".toList, "__getitem__".toList, "__eq__".toList,
   "__lt__".toList, "__hash__".toList, "__repr__".toList, "__str__".toList, "__new__".toList,
   "__init__".toList, "__setattr__".toList]

def assign (name : Text) : Fault :=
  if fieldNames.contains name then .readOnly
  else if sharedNames.contains name then .shared name
  else .noSuchField name

def same (left right : Unchecked) : Bool := Json.sameItems left.fields right.fields

/-- The order of rows: that of the first field in which they differ. -/
def less (left right : Unchecked) : Except Fault Bool :=
  (Json.lessItems left.fields right.fields).mapError .incomparable

def literal (row : Unchecked) : Text :=
  "OptionRow(name=".toList ++ row.name.literal ++ ", value=".toList ++ row.value.literal ++
    ", description=".toList ++ row.description.literal ++ [')']

def toJson (row : Unchecked) : Json.Value :=
  .object
    [(nameField, row.name), (valueField, row.value), (descriptionField, row.description)]

end Unchecked

end DocScan.Explain.OptionRow
