import DocScan.Descriptor.Session
import DocScan.Proofs.Descriptor.Building

/-!
# Descriptors over a session

A session only ever adds to the descriptors that it keeps. A construction adds the descriptor that
its fields, its name or its text give, or nothing; a copy adds to its source and leaves it alone;
changes are refused. Checked descriptors have a kind for good, while a copy can only fail to have
one for its name.
-/

namespace DocScan.Descriptor

open Json (Members)

/-! ## When there is no kind -/

namespace Unchecked

/-- The name is an array or an object. -/
def HasOpenName (descriptor : Unchecked) : Prop :=
  (∃ items, descriptor.name = .array items) ∨ ∃ members, descriptor.name = .object members

theorem fingerprint?_eq_none_iff (value : Json.Value) :
    value.fingerprint? = none ↔
      (∃ items, value = .array items) ∨ ∃ members, value = .object members := by
  cases value with
  | text content => cases content <;> simp [Json.Value.fingerprint?]
  | float number => cases number <;> simp [Json.Value.fingerprint?]
  | _ => simp [Json.Value.fingerprint?]

theorem primitive?_fails_iff (descriptor : Unchecked) :
    (∃ fault, descriptor.primitive? = .error fault) ↔ descriptor.HasOpenName :=
  (primitive?_error_iff descriptor).trans (fingerprint?_eq_none_iff descriptor.name)

theorem classify_error_iff (descriptor : Unchecked) :
    (∃ fault, descriptor.classify = .error fault) ↔
      descriptor.HasOpenName ∧ descriptor.isEnum.truthy = false ∧
        descriptor.isArray.truthy = false := by
  rw [← primitive?_fails_iff]
  unfold classify
  cases descriptor.isEnum.truthy with
  | true => simp
  | false =>
      cases descriptor.isArray.truthy with
      | true => simp
      | false =>
          cases descriptor.primitive? <;> simp [bind, Except.bind, pure, Except.pure]

example : classify { name := .array [], isArray := .int 0, isEnum := .bool true } =
    .ok .enumeration := rfl

end Unchecked

/-! ## What a construction amounts to -/

/-- The step builds the descriptor from fields, from a name or from a text. -/
inductive Step.Yields : Step → Descriptor → Prop where
  | fields {fields : Members} {descriptor : Descriptor} (declares : Declares fields descriptor) :
      Step.Yields (.construct fields) descriptor
  | name {name : Text} {isEnum : Option Json.Value} {flag : Bool}
      (given : isEnum = some (.bool flag) ∨ isEnum = none ∧ flag = false) :
      Step.Yields (.canonical (.text name) isEnum) (ofCanonicalName name flag)
  | text {text : Text} {fields : Members} {descriptor : Descriptor}
      (spells : Json.read text jsonLimits = .ok (.object fields))
      (declares : Declares fields descriptor) : Step.Yields (.parse text) descriptor

inductive Step.RefusedFor : Step → Refusal → Prop where
  | fields {fields : Members} {issues : List Issue} (reports : Reports fields issues) :
      Step.RefusedFor (.construct fields) (.invalid issues)
  | noName {name : Json.Value} {isEnum : Option Json.Value} (other : ∀ text, name ≠ .text text) :
      Step.RefusedFor (.canonical name isEnum) (.noSuffix name.typeName)
  | noFlag {name : Text} {isEnum : Json.Value} (other : ∀ flag, isEnum ≠ .bool flag) :
      Step.RefusedFor (.canonical (.text name) (some isEnum))
        (.invalid [.onField enumField .notFlag])
  | notJson {text : Text} {refusal : Json.Refusal}
      (refused : Json.read text jsonLimits = .error refusal) :
      Step.RefusedFor (.parse text) (.invalid [.ofWhole (.notJson refusal)])
  | notObject {text : Text} {value : Json.Value} (spells : Json.read text jsonLimits = .ok value)
      (other : ∀ fields, value ≠ .object fields) :
      Step.RefusedFor (.parse text) (.invalid [.ofWhole .notObject])
  | textFields {text : Text} {fields : Members} {issues : List Issue}
      (spells : Json.read text jsonLimits = .ok (.object fields))
      (reports : Reports fields issues) : Step.RefusedFor (.parse text) (.invalid issues)

/-- The step tries to build a descriptor, but not as a copy. -/
def Step.Constructs : Step → Prop
  | .construct _ | .canonical _ _ | .parse _ => True
  | _ => False

theorem Step.Yields.unique {step : Step} {one other : Descriptor} (first : step.Yields one)
    (second : step.Yields other) : one = other := by
  cases first with
  | fields declares =>
      cases second with
      | fields others => exact declares.unique others
  | name given =>
      cases second with
      | name givenToo =>
          rcases given with rfl | ⟨rfl, rfl⟩ <;> rcases givenToo with same | ⟨same, rfl⟩ <;>
            cases same <;> rfl
  | text spells declares =>
      cases second with
      | text spellsToo others =>
          cases spells.symm.trans spellsToo
          exact declares.unique others

/-- A construction keeps the one descriptor that it yields, or it is refused and changes nothing. -/
def Step.Settled (step : Step) : Prop :=
  (∃ descriptor, step.Yields descriptor ∧
    ∀ session : Session, session.step step = session.keep descriptor.toUnchecked) ∨
  ∃ refusal, step.RefusedFor refusal ∧ (∀ descriptor, ¬ step.Yields descriptor) ∧
    ∀ session : Session, session.step step = (session, .fault (.refused refusal))

theorem settled_construct (fields : Members) : (Step.construct fields).Settled := by
  rcases check_cases fields with ⟨found, checked, declares⟩ | ⟨issues, checked, reports, none⟩
  · exact .inl ⟨found, .fields declares, fun _ => by rw [Session.step, checked]; rfl⟩
  · refine .inr ⟨_, .fields reports, fun descriptor yields => ?_,
      fun _ => by rw [Session.step, checked]; rfl⟩
    cases yields with
    | fields declares => exact none descriptor declares

theorem settled_canonical (name : Json.Value) (isEnum : Option Json.Value) :
    (Step.canonical name isEnum).Settled := by
  by_cases isText : ∃ text, name = .text text
  · obtain ⟨text, rfl⟩ := isText
    cases isEnum with
    | none => exact .inl ⟨ofCanonicalName text false, .name (.inr ⟨rfl, rfl⟩), fun _ => rfl⟩
    | some value =>
        by_cases isFlag : ∃ flag, value = .bool flag
        · obtain ⟨flag, rfl⟩ := isFlag
          exact .inl ⟨ofCanonicalName text flag, .name (.inl rfl), fun _ => rfl⟩
        · refine .inr ⟨_, .noFlag fun flag same => isFlag ⟨flag, same⟩, fun descriptor yields => ?_,
            fun session => ?_⟩
          · cases yields with
            | @name _ _ flag given =>
                rcases given with same | ⟨same, -⟩
                · exact isFlag ⟨flag, Option.some.inj same⟩
                · cases same
          · cases value with
            | bool flag => exact absurd ⟨flag, rfl⟩ isFlag
            | _ => rfl
  · refine .inr ⟨_, .noName fun text same => isText ⟨text, same⟩, fun descriptor yields => ?_,
      fun session => ?_⟩
    · cases yields with
      | @name text => exact isText ⟨text, rfl⟩
    · cases name with
      | text text => exact absurd ⟨text, rfl⟩ isText
      | _ => rfl

theorem settled_parse (text : Text) : (Step.parse text).Settled := by
  cases spelled : Json.read text jsonLimits with
  | error refusal =>
      refine .inr ⟨_, .notJson spelled, fun descriptor yields => ?_,
        fun _ => by rw [Session.step, ofJsonText, spelled]; rfl⟩
      cases yields with
      | text spells => cases spelled.symm.trans spells
  | ok value =>
      by_cases isObject : ∃ fields, value = .object fields
      · obtain ⟨fields, rfl⟩ := isObject
        -- Once the text has been read, this is a construction from its fields.
        have same (session : Session) : session.step (.parse text) =
            session.step (.construct fields) := by
          simp only [Session.step, ofJsonText, spelled]
        rcases settled_construct fields with
          ⟨found, yields, keeps⟩ | ⟨refusal, refused, none, stays⟩
        · cases yields with
          | fields declares =>
              exact .inl ⟨found, .text spelled declares, fun session =>
                (same session).trans (keeps session)⟩
        · cases refused with
          | fields reports =>
              refine .inr ⟨_, .textFields spelled reports, fun descriptor yields => ?_,
                fun session => (same session).trans (stays session)⟩
              cases yields with
              | text spells declares =>
                  cases spelled.symm.trans spells
                  exact none descriptor (.fields declares)
      · refine .inr ⟨_, .notObject spelled fun fields same => isObject ⟨fields, same⟩,
          fun descriptor yields => ?_, fun session => ?_⟩
        · cases yields with
          | @text _ fields _ spells =>
              exact isObject ⟨fields, Except.ok.inj (spelled.symm.trans spells)⟩
        · rw [Session.step, ofJsonText, spelled]
          cases value with
          | object fields => exact absurd ⟨fields, rfl⟩ isObject
          | _ => rfl

theorem settled_of_constructs {step : Step} (constructs : step.Constructs) : step.Settled := by
  cases step with
  | construct fields => exact settled_construct fields
  | canonical name isEnum => exact settled_canonical name isEnum
  | parse text => exact settled_parse text
  | _ => exact constructs.elim

theorem constructs_of_yields {step : Step} {descriptor : Descriptor}
    (yields : step.Yields descriptor) : step.Constructs := by
  cases yields <;> trivial

theorem step_of_yields {step : Step} {descriptor : Descriptor} (yields : step.Yields descriptor)
    (session : Session) : session.step step = session.keep descriptor.toUnchecked := by
  rcases settled_of_constructs (constructs_of_yields yields) with
    ⟨found, foundYields, keeps⟩ | ⟨-, -, none, -⟩
  · rw [yields.unique foundYields, keeps]
  · exact absurd yields (none descriptor)

/-! ## Runs -/

namespace Session

def after (session : Session) (steps : List Step) : Session := (session.run steps).1

theorem after_cons (session : Session) (step : Step) (steps : List Step) :
    session.after (step :: steps) = (session.step step).1.after steps := rfl

theorem kept_after (session : Session) (steps : List Step) :
    session.kept <+: (session.after steps).kept := by
  induction steps generalizing session with
  | nil => exact List.prefix_rfl
  | cons step steps ih =>
      have grows := kept_prefix session step
      exact grows.trans (ih _)

theorem getElem?_after {session : Session} {place : Nat} {descriptor : Unchecked}
    (found : session.kept[place]? = some descriptor) (steps : List Step) :
    (session.after steps).kept[place]? = some descriptor := by
  obtain ⟨more, same⟩ := kept_after session steps
  rw [← same, List.getElem?_append_left (List.getElem?_eq_some_iff.mp found).1, found]

theorem after_append (session : Session) (front rest : List Step) :
    session.after (front ++ rest) = (session.after front).after rest := by
  induction front generalizing session with
  | nil => rfl
  | cons step front ih => exact ih (session.step step).1

theorem step_copy {session : Session} {source : Nat} {original : Unchecked}
    (found : session.kept[source]? = some original) (update : Members) :
    (session.step (.copy source update)).1.kept = session.kept ++ [original.copy update] := by
  simp only [Session.step, found]
  rfl

theorem step_change {session : Session} {target : Nat} (present : target < session.kept.length)
    {field : Text} (known : field ∈ declared) {step : Step}
    (changes : step = .assign target field ∨ step = .delete target field) :
    session.step step =
      (session, .fault (.refused (.invalid [.onField field .frozen]))) := by
  have found : session.kept[target]? = some session.kept[target] :=
    List.getElem?_eq_getElem present
  have shared : Unchecked.isPrivate field = false := by
    have every : ∀ field ∈ declared, Unchecked.isPrivate field = false := by decide
    exact every field known
  rcases changes with rfl | rfl
  · simp only [Session.step, about, found, shared]
    rfl
  · simp only [Session.step, about, found]
    rfl

theorem step_reads (session : Session) {step : Step} (noBuilding : ¬ step.Constructs)
    (noCopy : ∀ source update, step ≠ .copy source update) : (session.step step).1 = session := by
  cases step with
  | copy source update => exact absurd rfl (noCopy source update)
  | construct fields => exact absurd trivial noBuilding
  | canonical name isEnum => exact absurd trivial noBuilding
  | parse text => exact absurd trivial noBuilding
  | _ => rfl

end Session

/-- At any step of a run the descriptors built before stay as they are and where they are. A
construction adds the descriptor that it yields, which has a kind from then on, or it is refused
with a report; a copy adds to its source and leaves it alone; changes of the declared fields are
refused, and other steps only read. Of all that is kept, only what has an open name can be without a
kind. -/
theorem descriptors_over_run (session : Session) (front rest : List Step) (step : Step) :
    let before := session.after front
    let next := (before.step step).1
    let answer := (before.step step).2
    let last := session.after (front ++ step :: rest)
    (before.kept <+: next.kept ∧ next.kept <+: last.kept) ∧
    (∀ target field, target < before.kept.length → field ∈ declared →
      step = .assign target field ∨ step = .delete target field →
      answer = .fault (.refused (.invalid [.onField field .frozen])) ∧ next = before) ∧
    (∀ source update original, step = .copy source update →
      before.kept[source]? = some original →
      next.kept = before.kept ++ [original.copy update] ∧ last.kept[source]? = some original) ∧
    (∀ descriptor, step.Yields descriptor →
      next.kept = before.kept ++ [descriptor.toUnchecked] ∧
      last.kept[before.kept.length]? = some descriptor.toUnchecked ∧
      descriptor.toUnchecked.classify = .ok descriptor.classify ∧
      descriptor.toUnchecked.primitive? = .ok descriptor.primitive?) ∧
    (step.Constructs → (∀ descriptor, ¬ step.Yields descriptor) →
      next = before ∧ ∃ refusal, answer = .fault (.refused refusal) ∧ step.RefusedFor refusal) ∧
    (∀ fields other, step = .construct fields → other.Perm fields →
      (fields.map Prod.fst).Nodup → before.step (.construct other) = before.step step) ∧
    (¬ step.Constructs → (∀ source update, step ≠ .copy source update) → next = before) ∧
    ∀ descriptor ∈ last.kept,
      ((∃ fault, descriptor.primitive? = .error fault) ↔ descriptor.HasOpenName) ∧
      ((∃ fault, descriptor.classify = .error fault) ↔
        descriptor.HasOpenName ∧ descriptor.isEnum.truthy = false ∧
          descriptor.isArray.truthy = false) := by
  intro before next answer last
  have later : last = next.after rest := by
    rw [show last = (session.after front).after (step :: rest) from
      Session.after_append session front _]
    rfl
  have grows := Session.kept_prefix before step
  refine ⟨⟨grows, later ▸ Session.kept_after next rest⟩, ?changes, ?copies, ?yields, ?refused,
    ?order, Session.step_reads before, ?kinds⟩
  case changes =>
    intro target field present known changes
    have stays := Session.step_change present known changes
    exact ⟨congrArg Prod.snd stays, congrArg Prod.fst stays⟩
  case copies =>
    rintro source update original rfl found
    refine ⟨Session.step_copy found update, ?_⟩
    have behind := Session.getElem?_after found (.copy source update :: rest)
    rwa [Session.after_cons, ← later] at behind
  case yields =>
    intro descriptor yields
    have kept : next.kept = before.kept ++ [descriptor.toUnchecked] :=
      congrArg (·.1.kept) (step_of_yields yields before)
    have found : next.kept[before.kept.length]? = some descriptor.toUnchecked := by
      rw [kept, List.getElem?_concat_length]
    refine ⟨kept, ?_, Unchecked.classify_toUnchecked descriptor,
      Unchecked.primitive?_toUnchecked descriptor⟩
    rw [later]
    exact Session.getElem?_after found rest
  case refused =>
    intro constructs none
    rcases settled_of_constructs constructs with ⟨found, yields, -⟩ | ⟨refusal, refused, -, stays⟩
    · exact absurd yields (none found)
    · exact ⟨congrArg Prod.fst (stays before), refusal, congrArg Prod.snd (stays before), refused⟩
  case order =>
    rintro fields other rfl order distinct
    have same : check other = check fields :=
      check_congr fun field _ => find?_perm order distinct field
    simp only [Session.step, same]
  case kinds =>
    intro descriptor _
    exact ⟨descriptor.primitive?_fails_iff, descriptor.classify_error_iff⟩

def built : List Step := [.construct [(arrayField, .bool true), (nameField, .text ['a'])]]

def withOpenName : Members := [(nameField, .array [.int 1])]

theorem descriptors_over_run_copied :
    let last := Session.after {} (built ++ [.copy 0 withOpenName, .assign 0 nameField])
    last.kept[0]? = some ({ name := ['a'], isArray := true } : Descriptor).toUnchecked ∧
      ∃ copied ∈ last.kept, (∃ fault, copied.primitive? = .error fault) ∧
        ¬ ∃ fault, copied.classify = .error fault := by
  intro last
  obtain ⟨-, -, copies, -, -, -, -, kinds⟩ :=
    descriptors_over_run {} built [.assign 0 nameField] (.copy 0 withOpenName)
  obtain ⟨-, still⟩ := copies 0 withOpenName _ rfl rfl
  have copied : (Unchecked.copy _ withOpenName) ∈ last.kept := List.mem_of_getElem? (i := 1) rfl
  obtain ⟨lookups, kind⟩ := kinds _ copied
  refine ⟨still, _, copied, lookups.mpr (.inl ⟨_, rfl⟩), fun failed => ?_⟩
  have noFlag := (kind.mp failed).2.2
  exact absurd noFlag (by decide)

end DocScan.Descriptor
