import DocScan.Descriptor.Basic
import DocScan.Json.Compare

/-!
# Unchecked descriptors

A copy of a descriptor with some fields replaced is not checked again, so any value may stand in a
field. Flags are then taken by truth; a name that is an array or an object cannot be looked up.
-/

namespace DocScan.Descriptor

/-- The fields of a descriptor, with any value in each. -/
structure Unchecked where
  name : Json.Value
  isArray : Json.Value
  isEnum : Json.Value
deriving Repr

def toUnchecked (descriptor : Descriptor) : Unchecked :=
  { name := .text descriptor.name
    isArray := .bool descriptor.isArray
    isEnum := .bool descriptor.isEnum }

structure Unhashable where
  typeName : Text
deriving DecidableEq, Repr

def Unhashable.message (fault : Unhashable) : Text :=
  "unhashable type: '".toList ++ fault.typeName ++ ['\'']

def fingerprint (value : Json.Value) : Except Unhashable Json.Fingerprint :=
  match value.fingerprint? with
  | some fingerprint => .ok fingerprint
  | none => .error { typeName := value.typeName }

namespace Unchecked

/-! ## Copies -/

/-- The descriptor with some fields replaced. Other names change nothing. -/
def copy (descriptor : Unchecked) (update : Json.Members) : Unchecked :=
  { name := (update.find? nameField).getD descriptor.name
    isArray := (update.find? arrayField).getD descriptor.isArray
    isEnum := (update.find? enumField).getD descriptor.isEnum }

/-- The name is no field's but one that anyone may keep something under. -/
def isPrivate (name : Text) : Bool := name.head? == some '_'

def change (field : Text) : Issue := .onField field .frozen

/-! ## Classification -/

/-- The kind of the type as a primitive. The name has to have a fingerprint to be looked up. -/
def primitive? (descriptor : Unchecked) : Except Unhashable (Option Kind) := do
  let _ ← fingerprint descriptor.name
  match descriptor.name with
  | .text name => pure (Kind.primitive? name)
  | _ => pure none

def classify (descriptor : Unchecked) : Except Unhashable Kind :=
  if descriptor.isEnum.truthy then .ok .enumeration
  else if descriptor.isArray.truthy then .ok .array
  else do return (← descriptor.primitive?).getD .object

def events (descriptor : Unchecked) : List Log.Event :=
  match descriptor.classify with
  | .ok .object => [fallbackEvent descriptor.name]
  | _ => []

theorem primitive?_toUnchecked (descriptor : Descriptor) :
    descriptor.toUnchecked.primitive? = .ok descriptor.primitive? := by
  obtain ⟨name, isArray, isEnum⟩ := descriptor
  cases name <;> rfl

theorem classify_toUnchecked (descriptor : Descriptor) :
    descriptor.toUnchecked.classify = .ok descriptor.classify := by
  have lookup := primitive?_toUnchecked descriptor
  obtain ⟨name, isArray, isEnum⟩ := descriptor
  cases isArray <;> cases isEnum <;>
    simp_all [classify, Descriptor.classify, toUnchecked, Json.Value.truthy, bind, Except.bind,
      pure, Except.pure]

theorem primitive?_error_iff (descriptor : Unchecked) :
    (∃ fault, descriptor.primitive? = .error fault) ↔ descriptor.name.fingerprint? = none := by
  cases found : descriptor.name.fingerprint? with
  | none => simp [primitive?, fingerprint, found, bind, Except.bind]
  | some mark =>
      simp only [primitive?, fingerprint, found, bind, Except.bind, reduceCtorEq, iff_false,
        not_exists]
      intro fault
      cases descriptor.name <;> simp [pure, Except.pure]

/-! ## Comparison -/

def fields (descriptor : Unchecked) : List Json.Value :=
  [descriptor.name, descriptor.isArray, descriptor.isEnum]

def same (left right : Unchecked) : Bool := Json.sameItems left.fields right.fields

/-- The fingerprints of the fields, or why the first field without one has none. -/
def fingerprints (descriptor : Unchecked) : Except Unhashable (List Json.Fingerprint) :=
  descriptor.fields.mapM fingerprint

def distinct (descriptors : List Unchecked) : List Unchecked :=
  descriptors.foldl (fun kept descriptor =>
    if kept.any (same · descriptor) then kept else kept ++ [descriptor]) []

/-! ## Output -/

def literal (descriptor : Unchecked) : Text :=
  "TypeDescriptor(name=".toList ++ descriptor.name.literal ++
    ", is_array=".toList ++ descriptor.isArray.literal ++
    ", is_enum=".toList ++ descriptor.isEnum.literal ++ [')']

def toJson (descriptor : Unchecked) : Json.Value :=
  .object
    [(nameField, descriptor.name), (arrayField, descriptor.isArray),
     (enumField, descriptor.isEnum)]

def jsonText (descriptor : Unchecked) : Text := descriptor.toJson.write Json.compactStyle

end Unchecked

end DocScan.Descriptor
