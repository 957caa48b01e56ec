import DocScan.Proofs.Descriptor.Building

/-!
# Kinds of descriptors

The flags of a descriptor come first and the table of the primitive types last, so that the flags
never change what the table says. In the table the two names of a type agree, and nothing is an
array that is not named like one.
-/

namespace DocScan

namespace Kind

/-! ## The table -/

variable {name : Text} {kind : Kind}

theorem mem_primitives_of_primitive? (found : primitive? name = some kind) :
    (name, kind) ∈ primitives := by
  obtain ⟨before, after, cut, -⟩ := List.lookup_eq_some_iff.mp found
  simp [cut]

theorem arraySuffix_of_primitive? (found : primitive? name = some .array) :
    Descriptor.arraySuffix <:+ name := by
  have entries : ∀ entry ∈ primitives, entry.2 = .array → Descriptor.arraySuffix <:+ entry.1 := by
    decide
  exact entries (name, .array) (mem_primitives_of_primitive? found) rfl

theorem primitive?_of_qualified {short : Text}
    (found : primitive? (standardPackage ++ short) = some kind) :
    primitive? short = some kind := by
  have entries : ∀ entry ∈ primitives, standardPackage <+: entry.1 →
      primitive? (entry.1.drop standardPackage.length) = some entry.2 := by
    decide
  have halved := entries (standardPackage ++ short, kind) (mem_primitives_of_primitive? found)
    (List.prefix_append _ _)
  rwa [List.drop_left] at halved

end Kind

namespace Descriptor

/-! ## Classifying -/

/-- The kind of a descriptor: that of the first of these rules that applies. -/
inductive Classifies (descriptor : Descriptor) : Kind → Prop
  | enumeration (isEnum : descriptor.isEnum = true) : Classifies descriptor .enumeration
  | array (plain : descriptor.isEnum = false) (isArray : descriptor.isArray = true) :
      Classifies descriptor .array
  | primitive (plain : descriptor.isEnum = false) (single : descriptor.isArray = false)
      (kind : Kind) (listed : descriptor.primitive? = some kind) : Classifies descriptor kind
  | object (plain : descriptor.isEnum = false) (single : descriptor.isArray = false)
      (unlisted : descriptor.primitive? = none) : Classifies descriptor .object

theorem classifies_classify (descriptor : Descriptor) :
    Classifies descriptor descriptor.classify := by
  unfold classify
  cases plain : descriptor.isEnum with
  | true => exact .enumeration plain
  | false =>
      cases single : descriptor.isArray with
      | true => exact .array plain single
      | false =>
          cases found : descriptor.primitive? with
          | some kind => exact .primitive plain single kind found
          | none => exact .object plain single found

theorem classify_eq_iff (descriptor : Descriptor) (kind : Kind) :
    descriptor.classify = kind ↔ Classifies descriptor kind := by
  constructor
  · rintro rfl
    exact classifies_classify descriptor
  · intro classifies
    cases classifies with
    | enumeration isEnum => simp [classify, isEnum]
    | array plain isArray => simp [classify, plain, isArray]
    | primitive plain single _ listed => simp [classify, plain, single, listed]
    | object plain single unlisted => simp [classify, plain, single, unlisted]

theorem events_cases (descriptor : Descriptor) :
    descriptor.classify = .object ∧ descriptor.events = [fallbackEvent (.text descriptor.name)] ∨
      descriptor.classify ≠ .object ∧ descriptor.events = [] := by
  unfold events
  split
  · rename_i object
    exact .inl ⟨object, rfl⟩
  · rename_i other
    exact .inr ⟨other, rfl⟩

/-! ## Names alone -/

/-- The kind that a canonical name has without its suffix being looked at. -/
theorem classify_plain (name : Text) :
    ({ name } : Descriptor).classify = (Kind.primitive? name).getD .object := rfl

theorem classify_ofCanonicalName (name : Text) :
    (ofCanonicalName name).classify =
      if arraySuffix <:+ name then .array else (Kind.primitive? name).getD .object := by
  unfold ofCanonicalName classify
  simp only [Bool.false_eq_true, if_false, List.isSuffixOf_iff_suffix]
  rfl

theorem classify_ofCanonicalName_ne_iff (name : Text) :
    (ofCanonicalName name).classify ≠ ({ name } : Descriptor).classify ↔
      arraySuffix <:+ name ∧ Kind.primitive? name ≠ some .array := by
  rw [classify_plain, classify_ofCanonicalName]
  by_cases suffixed : arraySuffix <:+ name
  · rw [if_pos suffixed, ne_comm, and_iff_right suffixed, Ne, Ne]
    cases Kind.primitive? name with
    | none => simp
    | some kind => simp
  · simp [suffixed]

theorem check_name (name : Text) : check [(nameField, .text name)] = .ok { name } :=
  check_eq_ok_iff.mpr ⟨rfl, .inr ⟨rfl, rfl⟩, .inr ⟨rfl, rfl⟩⟩

/-- What looking up, classifying and the two ways to build a descriptor from a name have to do with
each other, for every descriptor and every name. -/
theorem kinds_coherent :
    (∀ descriptor : Descriptor,
      (∀ kind, descriptor.classify = kind ↔ Classifies descriptor kind) ∧
      (descriptor.classify = .object ↔
        descriptor.isEnum = false ∧ descriptor.isArray = false ∧ descriptor.primitive? = none) ∧
      (descriptor.classify = .object ∧ descriptor.events = [place.debug
          ("No primitive kind for ".toList ++ Text.literal descriptor.name ++
            ", using object".toList)] ∨
        descriptor.classify ≠ .object ∧ descriptor.events = []) ∧
      descriptor.primitive? ≠ some .enumeration ∧ descriptor.primitive? ≠ some .object ∧
      ∀ isArray isEnum, { descriptor with isArray, isEnum }.primitive? = descriptor.primitive?) ∧
    (∀ name, Kind.primitive? name = some .array → arraySuffix <:+ name) ∧
    (∀ name, ∃ canonical plain, ofCanonicalValue (.text name) none = .ok canonical ∧
      check [(nameField, .text name)] = .ok plain ∧
      (canonical.classify ≠ plain.classify ↔
        arraySuffix <:+ name ∧ plain.primitive? ≠ some .array)) ∧
    ∀ short kind, Kind.primitive? ("java.lang.".toList ++ short) = some kind →
      Kind.primitive? short = some kind := by
  refine ⟨fun descriptor => ⟨descriptor.classify_eq_iff, descriptor.classify_eq_object_iff,
    descriptor.events_cases, ?_, ?_, fun _ _ => rfl⟩, fun name => Kind.arraySuffix_of_primitive?,
    fun name => ?_, fun short kind => Kind.primitive?_of_qualified⟩
  · exact fun found => (descriptor.primitive?_ne .enumeration found).1 rfl
  · exact fun found => (descriptor.primitive?_ne .object found).2 rfl
  · exact ⟨ofCanonicalName name, { name }, rfl, check_name name,
      classify_ofCanonicalName_ne_iff name⟩

end Descriptor

end DocScan
