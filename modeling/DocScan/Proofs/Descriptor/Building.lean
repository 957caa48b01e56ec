import DocScan.Descriptor.Unchecked
import DocScan.Proofs.Settings.Bindings

/-!
# Building descriptors

Fields make a descriptor if the name is a text and each flag is a truth value or not given; other
fields do not matter, nor does the order. Where they do not, the report has one issue for each bad
field, in the order in which the fields are declared.
-/

namespace DocScan.Descriptor

open Json (Members)

variable {fields : Members} {descriptor : Descriptor}

/-! ## Fields that make a descriptor -/

def declared : List Text := [nameField, arrayField, enumField]

/-- The flag has this value, which is off if the flag is not given. -/
def SaysFlag (fields : Members) (field : Text) (flag : Bool) : Prop :=
  fields.find? field = some (.bool flag) ∨ fields.find? field = none ∧ flag = false

structure Declares (fields : Members) (descriptor : Descriptor) : Prop where
  name : fields.find? nameField = some (.text descriptor.name)
  isArray : SaysFlag fields arrayField descriptor.isArray
  isEnum : SaysFlag fields enumField descriptor.isEnum

theorem checkName_eq_ok_iff (name : Text) :
    checkName fields = .ok name ↔ fields.find? nameField = some (.text name) := by
  unfold checkName
  cases fields.find? nameField with
  | none => simp
  | some value => cases value <;> simp

theorem checkFlag_eq_ok_iff (field : Text) (flag : Bool) :
    checkFlag field fields = .ok flag ↔ SaysFlag fields field flag := by
  unfold checkFlag SaysFlag
  cases fields.find? field with
  | none => simp [eq_comm]
  | some value => cases value <;> simp

theorem check_eq_ok_iff : check fields = .ok descriptor ↔ Declares fields descriptor := by
  constructor
  · intro checked
    unfold check at checked
    dsimp only at checked
    split at checked
    · rename_i name isArray isEnum nameOk arrayOk enumOk
      obtain rfl := Except.ok.inj checked
      exact ⟨(checkName_eq_ok_iff name).mp nameOk, (checkFlag_eq_ok_iff _ _).mp arrayOk,
        (checkFlag_eq_ok_iff _ _).mp enumOk⟩
    · cases checked
  · rintro ⟨name, isArray, isEnum⟩
    unfold check
    rw [(checkName_eq_ok_iff _).mpr name, (checkFlag_eq_ok_iff _ _).mpr isArray,
      (checkFlag_eq_ok_iff _ _).mpr isEnum]

theorem Declares.unique {other : Descriptor} (first : Declares fields descriptor)
    (second : Declares fields other) : descriptor = other :=
  Except.ok.inj ((check_eq_ok_iff.mpr first).symm.trans (check_eq_ok_iff.mpr second))

/-! ## Fields that do not -/

inductive Offends (fields : Members) : Text → Fault → Prop where
  | missing (absent : fields.find? nameField = none) : Offends fields nameField .missing
  | notText {value : Json.Value} (given : fields.find? nameField = some value)
      (other : ∀ text, value ≠ .text text) : Offends fields nameField .notText
  | notFlag {field : Text} {value : Json.Value} (flag : field = arrayField ∨ field = enumField)
      (given : fields.find? field = some value) (other : ∀ flag, value ≠ .bool flag) :
      Offends fields field .notFlag

/-- Each bad field is reported once, in the order of declaration. -/
structure Reports (fields : Members) (issues : List Issue) : Prop where
  nonempty : issues ≠ []
  ordered : (issues.map Issue.location).Sublist (declared.map ([·]))
  complete : ∀ issue, issue ∈ issues ↔
    ∃ field fault, Offends fields field fault ∧ issue = .onField field fault

theorem flag_ne_name {field : Text} (flag : field = arrayField ∨ field = enumField) :
    field ≠ nameField := by
  rcases flag with rfl | rfl <;> decide

theorem checkName_eq_error_iff (issue : Issue) :
    checkName fields = .error issue ↔
      ∃ fault, Offends fields nameField fault ∧ issue = .onField nameField fault := by
  constructor
  · intro failed
    unfold checkName at failed
    split at failed
    · rename_i absent
      exact ⟨_, .missing absent, (Except.error.inj failed).symm⟩
    · cases failed
    · rename_i value other given
      exact ⟨_, .notText given fun text same => other text same, (Except.error.inj failed).symm⟩
  · rintro ⟨fault, offends, rfl⟩
    unfold checkName
    cases offends with
    | missing absent => rw [absent]
    | @notText value given other =>
        rw [given]
        cases value with
        | text text => exact absurd rfl (other text)
        | _ => rfl
    | notFlag flag => exact absurd rfl (flag_ne_name flag)

theorem checkFlag_eq_error_iff {field : Text} (flag : field = arrayField ∨ field = enumField)
    (issue : Issue) :
    checkFlag field fields = .error issue ↔
      ∃ fault, Offends fields field fault ∧ issue = .onField field fault := by
  constructor
  · intro failed
    unfold checkFlag at failed
    split at failed
    · cases failed
    · cases failed
    · rename_i value other given
      exact ⟨_, .notFlag flag given fun truth same => other truth same,
        (Except.error.inj failed).symm⟩
  · rintro ⟨fault, offends, rfl⟩
    unfold checkFlag
    cases offends with
    | missing => exact absurd rfl (flag_ne_name flag)
    | notText => exact absurd rfl (flag_ne_name flag)
    | @notFlag _ value _ given other =>
        rw [given]
        cases value with
        | bool truth => exact absurd rfl (other truth)
        | _ => rfl

theorem mem_ofCheck_iff {α : Type} {result : Except Issue α} {issue : Issue} :
    issue ∈ Issue.ofCheck result ↔ result = .error issue := by
  cases result <;> simp [Issue.ofCheck, eq_comm]

theorem location_ofCheck {α : Type} {result : Except Issue α} {field : Text}
    (checks : ∀ issue, result = .error issue ↔
      ∃ fault, Offends fields field fault ∧ issue = .onField field fault) :
    ((Issue.ofCheck result).map Issue.location).Sublist [[field]] := by
  cases result with
  | ok value => exact List.nil_sublist _
  | error issue =>
      obtain ⟨fault, -, rfl⟩ := (checks issue).mp rfl
      exact List.Sublist.refl _

theorem issues_of_check {issues : List Issue} (failed : check fields = .error issues) :
    issues ≠ [] ∧
      issues = Issue.ofCheck (checkName fields) ++ Issue.ofCheck (checkFlag arrayField fields) ++
        Issue.ofCheck (checkFlag enumField fields) := by
  unfold check at failed
  cases name : checkName fields <;> cases isArray : checkFlag arrayField fields <;>
    cases isEnum : checkFlag enumField fields <;> rw [name, isArray, isEnum] at failed <;>
    cases failed <;> exact ⟨by simp [Issue.ofCheck], rfl⟩

theorem Offends.field_cases {field : Text} {fault : Fault} (offends : Offends fields field fault) :
    field = nameField ∨ field = arrayField ∨ field = enumField := by
  cases offends with
  | missing => exact .inl rfl
  | notText => exact .inl rfl
  | notFlag flag => exact .inr flag

theorem reports_of_check {issues : List Issue} (failed : check fields = .error issues) :
    Reports fields issues := by
  obtain ⟨nonempty, rfl⟩ := issues_of_check failed
  have onName (issue : Issue) : checkName fields = .error issue ↔ _ :=
    checkName_eq_error_iff issue
  have onArray (issue : Issue) : checkFlag arrayField fields = .error issue ↔ _ :=
    checkFlag_eq_error_iff (.inl rfl) issue
  have onEnum (issue : Issue) : checkFlag enumField fields = .error issue ↔ _ :=
    checkFlag_eq_error_iff (.inr rfl) issue
  refine ⟨nonempty, ?ordered, fun issue => ?complete⟩
  case ordered =>
    rw [List.map_append, List.map_append]
    exact ((location_ofCheck onName).append (location_ofCheck onArray)).append
      (location_ofCheck onEnum)
  case complete =>
    rw [List.mem_append, List.mem_append, mem_ofCheck_iff, mem_ofCheck_iff, mem_ofCheck_iff,
      onName, onArray, onEnum]
    constructor
    · rintro ((⟨fault, offends, same⟩ | ⟨fault, offends, same⟩) | ⟨fault, offends, same⟩)
      · exact ⟨_, fault, offends, same⟩
      · exact ⟨_, fault, offends, same⟩
      · exact ⟨_, fault, offends, same⟩
    · rintro ⟨field, fault, offends, same⟩
      rcases offends.field_cases with rfl | rfl | rfl
      · exact .inl (.inl ⟨fault, offends, same⟩)
      · exact .inl (.inr ⟨fault, offends, same⟩)
      · exact .inr ⟨fault, offends, same⟩

theorem check_cases (fields : Members) :
    (∃ descriptor, check fields = .ok descriptor ∧ Declares fields descriptor) ∨
    ∃ issues, check fields = .error issues ∧ Reports fields issues ∧
      ∀ descriptor, ¬ Declares fields descriptor := by
  cases checked : check fields with
  | ok descriptor => exact .inl ⟨descriptor, rfl, check_eq_ok_iff.mp checked⟩
  | error issues =>
      refine .inr ⟨issues, rfl, reports_of_check checked, fun descriptor declares => ?_⟩
      cases checked.symm.trans (check_eq_ok_iff.mpr declares)

/-! ## What does not matter -/

theorem check_congr {other : Members}
    (alike : ∀ field ∈ declared, other.find? field = fields.find? field) :
    check other = check fields := by
  have name := alike nameField (by decide)
  have isArray := alike arrayField (by decide)
  have isEnum := alike enumField (by decide)
  simp only [check, checkName, checkFlag, name, isArray, isEnum]

theorem find?_perm {other : Members} (order : other.Perm fields)
    (distinct : (fields.map Prod.fst).Nodup) (field : Text) :
    other.find? field = fields.find? field := by
  have otherDistinct : (other.map Prod.fst).Nodup := (order.map Prod.fst).nodup_iff.mpr distinct
  refine Option.ext fun value => ?_
  have one := Named.mem_iff_lookup other otherDistinct field value
  have two := Named.mem_iff_lookup fields distinct field value
  exact one.symm.trans (order.mem_iff.trans two)

end DocScan.Descriptor
