import DocScan.TypeExpr
import Mathlib.Logic.Relation

/-!
# The structure of descriptors

A parameterised type is described by its origin. A class is an enumeration if the root of all
enumerations can be reached through its bases, and is then named by its module and its qualified
name. Only the two array types themselves are arrays, whatever is derived from them.
-/

namespace DocScan.TypeExpr

variable {type parent : TypeExpr}

/-! ## Classes -/

inductive IsClass : TypeExpr → Prop
  | builtin (name : Text) : IsClass (.builtin name)
  | enumRoot (name : Text) : IsClass (.enumRoot name)
  | enumeration (module name : Text) : IsClass (.enumeration module name)
  | declared (module name own : Text) (bases : List TypeExpr) :
      IsClass (.declared module name own bases)

theorem origin_of_isClass (isClass : IsClass type) : type.origin = type := by
  cases isClass <;> rfl

def enumClass : TypeExpr := .enumRoot "Enum".toList

/-- The first class is derived from the second one, which is among its bases or, in the case of an
enumeration, is one of the classes that enumerations are derived from. A union among the bases
stands for its member. -/
inductive Extends : TypeExpr → TypeExpr → Prop
  | root (name : Text) (other : name ≠ "Enum".toList) : Extends (.enumRoot name) enumClass
  | enumeration (module name root : Text) : Extends (.enumeration module name) (.enumRoot root)
  | declared (module name own : Text) (bases : List TypeExpr) {parent : TypeExpr}
      (base : parent ∈ membersOfAll bases) : Extends (.declared module name own bases) parent

/-- The ancestor is the class itself or is reached through its bases. -/
def DerivesFrom (type ancestor : TypeExpr) : Prop := Relation.ReflTransGen Extends type ancestor

/-! ## Enumerations -/

theorem members_of_isEnumeration (isEnum : type.isEnumeration = true) : type.members = [type] := by
  cases type with
  | union members => cases isEnum
  | value content => cases isEnum
  | _ => rfl

theorem any_members (other : ∀ members, type ≠ .union members) :
    type.members.any isEnumeration = type.isEnumeration := by
  cases type with
  | union members => exact absurd rfl (other members)
  | value content => cases content <;> rfl
  | _ => exact Bool.or_false _

theorem anyEnumeration_eq (bases : List TypeExpr) :
    anyEnumeration bases = (membersOfAll bases).any isEnumeration := by
  -- Only the recursion over bases counts: an expression that is no union is a member itself.
  refine anyEnumeration.induct (fun _ => True)
    (fun bases => anyEnumeration bases = (membersOfAll bases).any isEnumeration)
    (fun _ => trivial) (fun _ _ => trivial) (fun _ _ _ _ _ => trivial) (fun _ _ _ _ => trivial)
    rfl ?union ?base bases
  case union =>
    intro members rest ihMembers ihRest
    rw [anyEnumeration, membersOfAll, TypeExpr.members, List.any_append, ihMembers, ihRest]
  case base =>
    intro base rest other _ ih
    rw [anyEnumeration.eq_3 _ _ other, membersOfAll, List.any_append, any_members other, ih]

theorem isEnumeration_of_extends (step : Extends type parent)
    (isEnum : parent.isEnumeration = true) : type.isEnumeration = true := by
  cases step with
  | root name other => rfl
  | enumeration module name root => rfl
  | declared module name own bases base =>
      rw [isEnumeration, anyEnumeration_eq]
      exact List.any_eq_true.mpr ⟨parent, base, isEnum⟩

theorem derivesFrom_of_isEnumeration (type : TypeExpr) (isEnum : type.isEnumeration = true) :
    DerivesFrom type enumClass := by
  refine isEnumeration.induct (fun type => type.isEnumeration = true → DerivesFrom type enumClass)
    -- Of some bases it has to be said through which of them the root is reached.
    (fun bases => anyEnumeration bases = true →
      ∃ parent ∈ membersOfAll bases, DerivesFrom parent enumClass)
    ?root ?enumeration ?declared ?other ?none ?union ?base type isEnum
  case root =>
    intro name _
    by_cases itself : name = "Enum".toList
    · rw [itself]
      exact .refl
    · exact .single (.root name itself)
  case enumeration =>
    intro module name _
    exact .single (.enumeration module name "Enum".toList)
  case declared =>
    intro module name own bases ih isEnum
    obtain ⟨parent, base, derives⟩ := ih isEnum
    exact .head (.declared module name own bases base) derives
  case other =>
    intro type noRoot noEnumeration noClass isEnum
    rw [isEnumeration.eq_4 type noRoot noEnumeration noClass] at isEnum
    cases isEnum
  case none => exact nofun
  case union =>
    intro members rest ihMembers ihRest isEnum
    rw [membersOfAll, TypeExpr.members]
    rcases Bool.or_eq_true_iff.mp isEnum with inside | later
    · obtain ⟨parent, base, derives⟩ := ihMembers inside
      exact ⟨parent, List.mem_append_left _ base, derives⟩
    · obtain ⟨parent, base, derives⟩ := ihRest later
      exact ⟨parent, List.mem_append_right _ base, derives⟩
  case base =>
    intro base rest other ihBase ihRest isEnum
    rw [anyEnumeration.eq_3 _ _ other] at isEnum
    rw [membersOfAll]
    rcases Bool.or_eq_true_iff.mp isEnum with here | later
    · refine ⟨base, List.mem_append_left _ ?_, ihBase here⟩
      rw [members_of_isEnumeration here]
      exact List.mem_singleton_self base
    · obtain ⟨parent, base, derives⟩ := ihRest later
      exact ⟨parent, List.mem_append_right _ base, derives⟩

theorem isEnumeration_iff (type : TypeExpr) :
    type.isEnumeration = true ↔ DerivesFrom type enumClass := by
  constructor
  · exact derivesFrom_of_isEnumeration type
  · intro derives
    induction derives using Relation.ReflTransGen.head_induction_on with
    | refl => rfl
    | head step _ ih => exact isEnumeration_of_extends step ih

/-! ## Descriptors -/

/-- The builtin types that have the name of a primitive. -/
def mappedNames : List Text :=
  ["str".toList, "bool".toList, "int".toList, "float".toList, "bytes".toList, "bytearray".toList,
   "list".toList, "tuple".toList]

theorem mem_mappedNames_iff (short : Text) :
    short ∈ mappedNames ↔ ∃ canonical, canonicalNames.lookup short = some canonical := by
  constructor
  · intro mapped
    have every : ∀ short ∈ mappedNames, (canonicalNames.lookup short).isSome := by decide
    exact Option.isSome_iff_exists.mp (every short mapped)
  · rintro ⟨canonical, found⟩
    obtain ⟨before, after, cut, -⟩ := List.lookup_eq_some_iff.mp found
    have listed : (short, canonical) ∈ canonicalNames := by simp [cut]
    exact List.mem_map_of_mem (f := Prod.fst) listed

/-- What names a type that is neither an enumeration nor named as a primitive. -/
def shownName (type : TypeExpr) : Text :=
  type.moduleName ++ '.' :: (if type.qualifiedName = [] then type.display else type.qualifiedName)

/-- The class is one of those that have the name of a primitive. -/
def IsMapped (type : TypeExpr) : Prop := ∃ short ∈ mappedNames, type = .builtin short

theorem describeOrigin_cases (type : TypeExpr) :
    (DerivesFrom type enumClass ∧
      type.describeOrigin = { name := type.fullName, isEnum := true }) ∨
    (∃ short ∈ mappedNames, ∃ canonical, type = .builtin short ∧
      type.describeOrigin = { name := canonical, isArray := arrayTypes.contains short }) ∨
    ¬ DerivesFrom type enumClass ∧ ¬ IsMapped type ∧
      type.describeOrigin = { name := type.shownName } := by
  by_cases isEnum : type.isEnumeration = true
  · exact .inl ⟨(isEnumeration_iff type).mp isEnum, if_pos isEnum⟩
  · have plain := mt (isEnumeration_iff type).mpr isEnum
    unfold describeOrigin
    rw [if_neg isEnum]
    refine .inr ?_
    cases type with
    | builtin short =>
        cases found : canonicalNames.lookup short with
        | some canonical =>
            have mapped := (mem_mappedNames_iff short).mpr ⟨canonical, found⟩
            simp only [found]
            exact .inl ⟨short, mapped, canonical, rfl, rfl⟩
        | none =>
            simp only [found]
            refine .inr ⟨plain, ?_, rfl⟩
            rintro ⟨other, mapped, same⟩
            obtain ⟨canonical, listed⟩ := (mem_mappedNames_iff other).mp mapped
            rw [← builtin.inj same, found] at listed
            cases listed
    | _ => exact .inr ⟨plain, nofun, rfl⟩

theorem not_derivesFrom_builtin (name : Text) : ¬ DerivesFrom (.builtin name) enumClass :=
  fun derives => nomatch (isEnumeration_iff (.builtin name)).mpr derives

theorem isArray_describe_iff (type : TypeExpr) :
    type.describe.isArray = true ↔
      type.origin = .builtin "list".toList ∨ type.origin = .builtin "tuple".toList := by
  rw [describe]
  constructor
  · intro isArray
    rcases describeOrigin_cases type.origin with
      ⟨-, described⟩ | ⟨short, -, canonical, same, described⟩ | ⟨-, -, described⟩
    · rw [described] at isArray
      cases isArray
    · rw [described] at isArray
      have listed : short ∈ arrayTypes := List.contains_iff_mem.mp isArray
      rw [same]
      simpa [arrayTypes] using listed
    · rw [described] at isArray
      cases isArray
  · rintro (same | same) <;> rw [same] <;> rfl

theorem isEnum_describe_iff (type : TypeExpr) :
    type.describe.isEnum = true ↔ DerivesFrom type.origin enumClass := by
  rw [describe]
  rcases describeOrigin_cases type.origin with
    ⟨derives, described⟩ | ⟨short, -, canonical, same, described⟩ | ⟨plain, -, described⟩
  · exact iff_of_true (by rw [described]) derives
  · rw [described, same]
    exact iff_of_false Bool.false_ne_true (not_derivesFrom_builtin short)
  · rw [described]
    exact iff_of_false Bool.false_ne_true plain

theorem describe_of_derivesFrom (isClass : IsClass type) (derives : DerivesFrom type enumClass) :
    type.describe = { name := type.fullName, isEnum := true } := by
  rw [describe, origin_of_isClass isClass]
  exact if_pos ((isEnumeration_iff type).mpr derives)

theorem describe_of_plain (isClass : IsClass type) (plain : ¬ DerivesFrom type enumClass)
    (unmapped : ¬ IsMapped type) : type.describe = { name := type.shownName } := by
  rw [describe, origin_of_isClass isClass]
  rcases describeOrigin_cases type with
    ⟨derives, -⟩ | ⟨short, mapped, -, same, -⟩ | ⟨-, -, described⟩
  · exact absurd derives plain
  · exact absurd ⟨short, mapped, same⟩ unmapped
  · exact described

theorem describe_alias_of_isClass {origin : TypeExpr} (isClass : IsClass origin) (name : Text)
    (applied : Bool) (arguments : List TypeExpr) :
    describe (.alias name origin applied arguments) = describe origin := by
  rw [describe_alias, describe, origin_of_isClass isClass]

/-- How a class of a module shows itself if it has no qualified name. -/
def namelessText (module own : Text) : Text :=
  if module = "builtins".toList then "<class '".toList ++ own ++ "'>".toList
  else "<class '".toList ++ module ++ ".'>".toList

theorem display_of_isClass (isClass : IsClass type) (nameless : type.qualifiedName = []) :
    type.display = namelessText type.moduleName type.ownName := by
  have shape : type.display = "<class '".toList ++
      (if type.moduleName = "builtins".toList then type.ownName else type.fullName) ++
        "'>".toList := by
    cases isClass <;> rfl
  rw [shape, fullName, nameless, namelessText]
  split
  · rfl
  · rw [List.append_assoc, List.append_assoc, List.append_assoc]
    rfl

/-- A parameterised type has the descriptor of its origin, whatever the parameters. A class is
flagged as an enumeration exactly if it is derived from the root of all enumerations, and as an
array exactly if it is one of the two array types. But for those with the name of a primitive, it is
named by its module and its qualified name; in the place of an empty qualified name stands what the
class shows itself as, unless it is an enumeration. No type has both flags. -/
theorem describe_structured :
    (∀ origin arguments ellipsis,
      describe (.generic origin arguments ellipsis) = describe (.builtin origin)) ∧
    (∀ origin, IsClass origin → ∀ name applied arguments,
      describe (.alias name origin applied arguments) = describe origin) ∧
    (∀ type : TypeExpr, IsClass type →
      (type.describe.isEnum = true ↔ DerivesFrom type enumClass) ∧
      (DerivesFrom type enumClass →
        type.describe.name = type.moduleName ++ '.' :: type.qualifiedName ∧
          type.describe.isArray = false) ∧
      (type.describe.isArray = true ↔
        type = .builtin "list".toList ∨ type = .builtin "tuple".toList) ∧
      (¬ IsMapped type → type.qualifiedName ≠ [] →
        type.describe.name = type.moduleName ++ '.' :: type.qualifiedName) ∧
      (¬ IsMapped type → type.qualifiedName = [] → ¬ DerivesFrom type enumClass →
        type.describe.name =
          type.moduleName ++ '.' :: namelessText type.moduleName type.ownName)) ∧
    (∀ type : TypeExpr, type.describe.isArray = true ↔
      type.origin = .builtin "list".toList ∨ type.origin = .builtin "tuple".toList) ∧
    ∀ type : TypeExpr, ¬ (type.describe.isArray = true ∧ type.describe.isEnum = true) := by
  refine ⟨describe_generic, fun origin isClass => describe_alias_of_isClass isClass,
    fun type isClass => ?classes, isArray_describe_iff, describe_flags⟩
  have itself := origin_of_isClass isClass
  refine ⟨?_, fun derives => ?_, ?_, fun unmapped named => ?_, fun unmapped nameless plain => ?_⟩
  · rw [isEnum_describe_iff, itself]
  · rw [describe_of_derivesFrom isClass derives]
    exact ⟨rfl, rfl⟩
  · rw [isArray_describe_iff, itself]
  · by_cases derives : DerivesFrom type enumClass
    · rw [describe_of_derivesFrom isClass derives]
      rfl
    · rw [describe_of_plain isClass derives unmapped, shownName, if_neg named]
  · rw [describe_of_plain isClass plain unmapped, shownName, if_pos nameless,
      display_of_isClass isClass nameless]

/-- A class of texts that is also derived, through a class without a name, from an enumeration. -/
def mixedClass : TypeExpr :=
  .declared "m".toList "Mixed".toList "Mixed".toList
    [.builtin "str".toList,
     .declared "m".toList [] "C".toList [.enumeration "m".toList "Level".toList]]

/-- A class of the builtin module that has lost its qualified name. -/
def namelessList : TypeExpr :=
  .declared "builtins".toList [] "C".toList [.builtin "list".toList]

/-- The class of queues with two ends, which has an alias in capitals. -/
def queueClass : TypeExpr :=
  .declared "collections".toList "deque".toList "deque".toList [.builtin "object".toList]

theorem describe_structured_mixedClass :
    DerivesFrom mixedClass enumClass ∧ mixedClass.describe.isEnum = true ∧
      mixedClass.describe.name = "m.Mixed".toList ∧ mixedClass.describe.isArray = false ∧
      ¬ DerivesFrom namelessList enumClass ∧ ¬ IsMapped namelessList ∧
      namelessList.describe.name = "builtins.<class 'C'>".toList ∧
      namelessList.describe.isArray = false ∧
      (describe (.alias "Deque".toList queueClass true [namelessList])).name =
        "collections.deque".toList := by
  have derives : DerivesFrom mixedClass enumClass := (isEnumeration_iff mixedClass).mp rfl
  have plain : ¬ DerivesFrom namelessList enumClass :=
    fun derives => nomatch (isEnumeration_iff namelessList).mpr derives
  have unmapped : ¬ IsMapped namelessList := nofun
  have isClass : IsClass queueClass := .declared _ _ _ _
  obtain ⟨-, aliases, classes, -⟩ := describe_structured
  obtain ⟨flag, named, -⟩ := classes mixedClass (.declared _ _ _ _)
  obtain ⟨-, -, array, -, shows⟩ := classes namelessList (.declared _ _ _ _)
  obtain ⟨-, -, -, queue, -⟩ := classes queueClass isClass
  have noArray : namelessList.describe.isArray = false :=
    Bool.eq_false_iff.mpr fun isArray => (array.mp isArray).elim nofun nofun
  refine ⟨derives, flag.mpr derives, (named derives).1, (named derives).2, plain, unmapped,
    shows unmapped rfl plain, noArray, ?_⟩
  rw [aliases queueClass isClass]
  exact queue nofun nofun

end DocScan.TypeExpr
