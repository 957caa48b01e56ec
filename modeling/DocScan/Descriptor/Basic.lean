import DocScan.Kind
import DocScan.Json.Reader
import DocScan.Json.Writer
import DocScan.Log.Event
import DocScan.Validation

/-!
# Type descriptors

A descriptor identifies a type by its canonical name and says whether it is an array and whether it
is an enumeration. It is built from named fields, from a canonical name, or from its JSON form, and
its kind follows from it.
-/

namespace DocScan

structure Descriptor where
  name : Text
  isArray : Bool := false
  isEnum : Bool := false
deriving DecidableEq, Repr

namespace Descriptor

/-! ## The fields -/

def nameField : Text := "name".toList

def arrayField : Text := "is_array".toList

def enumField : Text := "is_enum".toList

def checkName (fields : Json.Members) : Except Issue Text :=
  match fields.find? nameField with
  | none => .error (.onField nameField .missing)
  | some (.text name) => .ok name
  | some _ => .error (.onField nameField .notText)

/-- A flag among some fields: it is off unless given, and nothing but a truth value will do. -/
def checkFlag (field : Text) (fields : Json.Members) : Except Issue Bool :=
  match fields.find? field with
  | none => .ok false
  | some (.bool flag) => .ok flag
  | some _ => .error (.onField field .notFlag)

/-- The descriptor with these fields. Other fields are ignored, and every bad one is reported. -/
def check (fields : Json.Members) : Except (List Issue) Descriptor :=
  let name := checkName fields
  let isArray := checkFlag arrayField fields
  let isEnum := checkFlag enumField fields
  match name, isArray, isEnum with
  | .ok name, .ok isArray, .ok isEnum => .ok { name, isArray, isEnum }
  | _, _, _ => .error (Issue.ofCheck name ++ Issue.ofCheck isArray ++ Issue.ofCheck isEnum)

/-! ## Canonical names -/

def arraySuffix : Text := ['[', ']']

/-- The descriptor of a canonical name. The array flag is read off the name. -/
def ofCanonicalName (name : Text) (isEnum : Bool := false) : Descriptor :=
  { name, isArray := arraySuffix.isSuffixOf name, isEnum }

inductive Refusal where
  | noSuffix (typeName : Text)
  | invalid (issues : List Issue)
deriving DecidableEq, Repr

def Refusal.message : Refusal → Text
  | .noSuffix typeName =>
    ['\''] ++ typeName ++ "' object has no attribute 'endswith'".toList
  | .invalid issues => Issue.summary issues

def ofCanonicalValue (name : Json.Value) (isEnum : Option Json.Value) : Except Refusal Descriptor :=
  match name with
  | .text name =>
    let flag := isEnum.map fun value => (enumField, value)
    match checkFlag enumField flag.toList with
    | .ok isEnum => .ok (ofCanonicalName name isEnum)
    | .error issue => .error (.invalid [issue])
  | other => .error (.noSuffix other.typeName)

/-! ## JSON form -/

def toJson (descriptor : Descriptor) : Json.Value :=
  .object
    [(nameField, .text descriptor.name), (arrayField, .bool descriptor.isArray),
     (enumField, .bool descriptor.isEnum)]

def jsonText (descriptor : Descriptor) : Text := descriptor.toJson.write Json.compactStyle

/-- How large a JSON text of a descriptor may grow: containers are nested to two hundred levels and
whole numbers have four thousand three hundred characters. -/
def jsonLimits : Json.Limits := { depth := some 200, wholePart := some 4300 }

def ofJsonText (text : Text) : Except (List Issue) Descriptor :=
  match Json.read text jsonLimits with
  | .error refusal => .error [.ofWhole (.notJson refusal)]
  | .ok (.object fields) => check fields
  | .ok _ => .error [.ofWhole .notObject]

/-! ## Classification -/

/-- The kind of the type as a primitive. The flags do not count. -/
def primitive? (descriptor : Descriptor) : Option Kind := Kind.primitive? descriptor.name

/-- The kind of the type: an enumeration first, then an array, then a primitive, else an object. -/
def classify (descriptor : Descriptor) : Kind :=
  if descriptor.isEnum then .enumeration
  else if descriptor.isArray then .array
  else descriptor.primitive?.getD .object

theorem primitive?_ne (descriptor : Descriptor) (kind : Kind)
    (found : descriptor.primitive? = some kind) : kind ≠ .enumeration ∧ kind ≠ .object := by
  obtain ⟨front, back, split, -⟩ := List.lookup_eq_some_iff.mp found
  exact Kind.primitives_ne descriptor.name kind (by simp [split])

theorem classify_eq_object_iff (descriptor : Descriptor) :
    descriptor.classify = .object ↔
      descriptor.isEnum = false ∧ descriptor.isArray = false ∧ descriptor.primitive? = none := by
  unfold classify
  cases descriptor.isEnum <;> cases descriptor.isArray <;> simp
  cases found : descriptor.primitive? with
  | none => simp
  | some kind => simp [(primitive?_ne descriptor kind found).2]

def place : Log.Place :=
  { logger := "packages.schemas.json_schema".toList
    module := "json_schema".toList
    function := "classify".toList }

def fallbackEvent (name : Json.Value) : Log.Event :=
  place.debug ("No primitive kind for ".toList ++ name.literal ++ ", using object".toList)

/-- The report of a classification: there is one when nothing but the fallback applies. -/
def events (descriptor : Descriptor) : List Log.Event :=
  if descriptor.classify = .object then [fallbackEvent (.text descriptor.name)] else []

end Descriptor

end DocScan
