import DocScan.Proofs.Text.Marks
import DocScan.Proofs.TypeExpr.Structure

/-!
# Namesakes of the primitive types

A type that has no entry among the builtin types is named by its module and its qualified name, and
this name is looked up like any other. It is in the table of the primitive types if the module is
the standard package and the qualified name is the short name of one of its types, or if the dot
between package and subpackage is moved into the qualified name.
-/

namespace DocScan.TypeExpr

variable {type : TypeExpr} {kind : Kind}

/-! ## Joined names -/

/-- The types of the standard package that are primitive, under their short names. -/
def standardTypes : List (Text × Kind) :=
  [("byte[]".toList, .string), ("Byte[]".toList, .array), ("Object[]".toList, .array),
   ("String[]".toList, .array), ("String".toList, .string), ("Boolean".toList, .boolean),
   ("Integer".toList, .integer), ("Long".toList, .integer), ("Short".toList, .integer),
   ("Byte".toList, .integer), ("Float".toList, .number), ("Double".toList, .number)]

/-- What has this module and this qualified name is a namesake of a primitive type. -/
inductive Namesake : Text → Text → Kind → Prop
  | package (short : Text) (kind : Kind) (listed : (short, kind) ∈ standardTypes) :
      Namesake "java.lang".toList short kind
  | subpackage (short : Text) (kind : Kind) (listed : (short, kind) ∈ standardTypes) :
      Namesake "java".toList ("lang".toList ++ '.' :: short) kind

theorem primitive?_dotted_iff (name : Text) (dotted : '.' ∈ name) (kind : Kind) :
    Kind.primitive? name = some kind ↔
      ∃ short, (short, kind) ∈ standardTypes ∧ name = Kind.standardPackage ++ short := by
  constructor
  · intro found
    obtain ⟨before, after, cut, -⟩ := List.lookup_eq_some_iff.mp found
    have listed : (name, kind) ∈ Kind.primitives := by simp [cut]
    have entries : ∀ entry ∈ Kind.primitives, '.' ∈ entry.1 →
        (entry.1.drop Kind.standardPackage.length, entry.2) ∈ standardTypes ∧
          entry.1 = Kind.standardPackage ++ entry.1.drop Kind.standardPackage.length := by
      decide
    exact ⟨_, entries (name, kind) listed dotted⟩
  · rintro ⟨short, listed, rfl⟩
    have entries : ∀ entry ∈ standardTypes,
        Kind.primitive? (Kind.standardPackage ++ entry.1) = some entry.2 := by
      decide
    exact entries (short, kind) listed

theorem standard_shape {short : Text} (listed : (short, kind) ∈ standardTypes) :
    short ≠ [] ∧ '.' ∉ short ∧ '>' ∉ short := by
  have entries : ∀ entry ∈ standardTypes, entry.1 ≠ [] ∧ '.' ∉ entry.1 ∧ '>' ∉ entry.1 := by decide
  exact entries (short, kind) listed

theorem joined_eq_standard_iff (module name short : Text) (free : '.' ∉ short) :
    module ++ '.' :: name = Kind.standardPackage ++ short ↔
      (module = "java.lang".toList ∧ name = short) ∨
        (module = "java".toList ∧ name = "lang".toList ++ '.' :: short) := by
  have package : Kind.standardPackage ++ short = "java.lang".toList ++ '.' :: short := rfl
  rw [package, Text.append_cons_eq_iff '.' _ _ _ _ free]
  refine or_congr_right ⟨?_, ?_⟩
  · rintro ⟨middle, cut, rest⟩
    have inside : module ++ '.' :: middle = "java".toList ++ '.' :: "lang".toList := cut.symm
    rw [Text.append_cons_eq_iff '.' _ _ _ _ (by decide)] at inside
    rcases inside with ⟨front, back⟩ | ⟨more, front, -⟩
    · exact ⟨front, back ▸ rest⟩
    · have dot : '.' ∈ "java".toList := front ▸ List.mem_append_right module List.mem_cons_self
      exact absurd dot (by decide)
  · rintro ⟨rfl, rfl⟩
    exact ⟨"lang".toList, rfl, rfl⟩

theorem primitive?_joined_iff (module name : Text) (kind : Kind) :
    Kind.primitive? (module ++ '.' :: name) = some kind ↔ Namesake module name kind := by
  rw [primitive?_dotted_iff _ (List.mem_append_right module List.mem_cons_self)]
  constructor
  · rintro ⟨short, listed, joined⟩
    have free := (standard_shape listed).2.1
    rcases (joined_eq_standard_iff module name short free).mp joined with
      ⟨rfl, rfl⟩ | ⟨rfl, rfl⟩
    · exact .package name kind listed
    · exact .subpackage short kind listed
  · intro namesake
    cases namesake with
    | package short _ listed => exact ⟨name, listed, rfl⟩
    | subpackage short _ listed => exact ⟨short, listed, rfl⟩

/-! ## Kinds -/

/-- A class that is neither an enumeration nor named as a primitive, or a function. -/
inductive Unlisted : TypeExpr → Prop
  | ofClass {type : TypeExpr} (isClass : IsClass type) (unmapped : ¬ IsMapped type)
      (plain : ¬ DerivesFrom type enumClass) : Unlisted type
  | function (module name : Text) : Unlisted (.function module name)

theorem describe_of_unlisted (unlisted : Unlisted type) :
    type.describe = { name := type.shownName } := by
  cases unlisted with
  | ofClass isClass unmapped plain => exact describe_of_plain isClass plain unmapped
  | function module name => rfl

theorem bracket_mem_display (unlisted : Unlisted type) : '>' ∈ type.display := by
  cases unlisted with
  | ofClass isClass =>
      cases isClass <;> exact List.mem_append_right _ (by decide)
  | function module name => exact List.mem_append_right _ (by decide)

theorem namesake_shape {module name : Text} (namesake : Namesake module name kind) :
    name ≠ [] ∧ '>' ∉ name := by
  cases namesake with
  | package _ _ listed =>
      obtain ⟨named, -, free⟩ := standard_shape listed
      exact ⟨named, free⟩
  | subpackage short _ listed =>
      have free := (standard_shape listed).2.2
      exact ⟨List.cons_ne_nil _ _, by simpa using free⟩

theorem primitive?_describe_iff (unlisted : Unlisted type) (kind : Kind) :
    type.describe.primitive? = some kind ↔
      Namesake type.moduleName type.qualifiedName kind := by
  rw [describe_of_unlisted unlisted, Descriptor.primitive?, shownName, primitive?_joined_iff]
  by_cases nameless : type.qualifiedName = []
  · -- What the type shows itself as ends in a bracket, which is in no name of the table.
    rw [if_pos nameless]
    refine iff_of_false (fun namesake => ?_) (fun namesake => ?_)
    · exact (namesake_shape namesake).2 (bracket_mem_display unlisted)
    · exact (namesake_shape namesake).1 nameless
  · rw [if_neg nameless]

theorem classify_describe (unlisted : Unlisted type) :
    type.describe.classify = type.describe.primitive?.getD .object := by
  rw [describe_of_unlisted unlisted]
  rfl

/-- A class outside the builtin table that is no enumeration, or a function, is an object without a
primitive kind exactly if it is no namesake of a primitive type. A namesake has the kind of the
primitive type. -/
theorem object_iff_no_namesake (unlisted : Unlisted type) :
    (type.describe.classify = .object ∧ type.describe.primitive? = none ↔
      ∀ kind, ¬ Namesake type.moduleName type.qualifiedName kind) ∧
    ∀ kind, Namesake type.moduleName type.qualifiedName kind →
      type.describe.classify = kind ∧ type.describe.primitive? = some kind := by
  refine ⟨⟨?_, fun other => ?_⟩, fun kind namesake => ?_⟩
  · rintro ⟨-, absent⟩ kind namesake
    rw [← primitive?_describe_iff unlisted, absent] at namesake
    cases namesake
  · have absent : type.describe.primitive? = none :=
      Option.eq_none_iff_forall_ne_some.mpr fun kind found =>
        other kind ((primitive?_describe_iff unlisted kind).mp found)
    rw [classify_describe unlisted, absent]
    exact ⟨rfl, rfl⟩
  · have found := (primitive?_describe_iff unlisted kind).mpr namesake
    rw [classify_describe unlisted, found]
    exact ⟨rfl, rfl⟩

def standardClass (name : Text) : TypeExpr := .declared "java.lang".toList name name []

theorem unlisted_standardClass (name : Text) : Unlisted (standardClass name) :=
  .ofClass (.declared _ _ _ _) nofun
    fun derives => nomatch (isEnumeration_iff (standardClass name)).mpr derives

theorem object_iff_no_namesake_characterAndLong :
    (Unlisted (standardClass "Character".toList) ∧
      describe (standardClass "Character".toList) = { name := "java.lang.Character".toList } ∧
      (describe (standardClass "Character".toList)).classify = .object) ∧
    Unlisted (.function "java".toList "lang.Long".toList) ∧
      Namesake "java".toList "lang.Long".toList .integer ∧
      (describe (.function "java".toList "lang.Long".toList)).classify = .integer := by
  have unlisted := unlisted_standardClass "Character".toList
  have other : ∀ kind, ¬ Namesake "java.lang".toList "Character".toList kind := by
    intro kind namesake
    have found := (primitive?_joined_iff _ _ kind).mpr namesake
    have absent : Kind.primitive? ("java.lang".toList ++ '.' :: "Character".toList) = none := by
      decide
    rw [absent] at found
    cases found
  have namesake : Namesake "java".toList "lang.Long".toList .integer :=
    .subpackage "Long".toList .integer (by decide)
  have asFunction := Unlisted.function "java".toList "lang.Long".toList
  exact ⟨⟨unlisted, rfl, ((object_iff_no_namesake unlisted).1.mpr other).1⟩, asFunction, namesake,
    ((object_iff_no_namesake asFunction).2 .integer namesake).1⟩

theorem not_always_object :
    ¬ ∀ type, Unlisted type →
      type.describe.classify = .object ∧ type.describe.primitive? = none := by
  intro always
  have object := (always _ (unlisted_standardClass "String".toList)).1
  have text : (describe (standardClass "String".toList)).classify = .string := by decide
  rw [text] at object
  cases object

end DocScan.TypeExpr
