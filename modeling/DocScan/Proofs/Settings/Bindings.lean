import DocScan.Settings.EnvFile
import Mathlib.Data.List.Induction
import Mathlib.Data.List.Nodup

/-!
# Lines of environment files

What a file binds a name to is decided by the last line for the name: it is read with what is known
at that line, and no other line for the name counts. Lines for other names only matter if a value
refers to them. An environment takes from a file the names that it does not have.
-/

namespace DocScan.Named

variable {α : Type}

/-! ## Named values with distinct names -/

theorem nodup_names_put (name : Text) (value : α) (named : List (Text × α))
    (distinct : (named.map Prod.fst).Nodup) : ((put name value named).map Prod.fst).Nodup := by
  rw [names_put]
  split
  · exact distinct
  · rename_i new
    refine List.nodup_append.mpr ⟨distinct, List.nodup_singleton name, ?_⟩
    rintro other member added isAdded rfl
    exact new (List.mem_singleton.mp isAdded ▸ member)

theorem put_of_new (name : Text) (value : α) (named : List (Text × α))
    (new : name ∉ named.map Prod.fst) : put name value named = named ++ [(name, value)] := by
  induction named with
  | nil => rfl
  | cons entry rest ih =>
      rw [List.map_cons, List.mem_cons, not_or] at new
      rw [put, if_neg (Ne.symm new.1), ih new.2, List.cons_append]

theorem mem_iff_lookup (named : List (Text × α)) (distinct : (named.map Prod.fst).Nodup)
    (name : Text) (value : α) : (name, value) ∈ named ↔ named.lookup name = some value := by
  induction named with
  | nil => simp
  | cons entry rest ih =>
      obtain ⟨other, old⟩ := entry
      rw [List.map_cons, List.nodup_cons] at distinct
      by_cases same : name = other
      · subst same
        have absent : (name, value) ∉ rest := fun member =>
          distinct.1 (List.mem_map.mpr ⟨_, member, rfl⟩)
        simp [absent, eq_comm]
      · have unlike : (name == other) = false := by simp [same]
        simp [List.lookup_cons, unlike, same, ih distinct.2]

theorem filter_put_of_kept (kept : Text → Bool) (name : Text) (value : α)
    (named : List (Text × α)) (keeps : kept name = true) :
    (put name value named).filter (kept ·.1) = put name value (named.filter (kept ·.1)) := by
  induction named with
  | nil => simp [put, keeps]
  | cons entry rest ih =>
      obtain ⟨other, old⟩ := entry
      by_cases same : other = name
      · subst same
        simp [put, keeps]
      · by_cases keepsOther : kept other = true <;> simp [put, same, keepsOther, ih]

theorem filter_put_of_not_kept (kept : Text → Bool) (name : Text) (value : α)
    (named : List (Text × α)) (drops : kept name = false) :
    (put name value named).filter (kept ·.1) = named.filter (kept ·.1) := by
  induction named with
  | nil => simp [put, drops]
  | cons entry rest ih =>
      obtain ⟨other, old⟩ := entry
      by_cases same : other = name
      · subst same
        simp [put, drops]
      · by_cases keepsOther : kept other = true <;> simp [put, same, keepsOther, ih]

theorem lookup_filter (kept : Text → Bool) (name : Text) (named : List (Text × α))
    (keeps : kept name = true) : (named.filter (kept ·.1)).lookup name = named.lookup name := by
  induction named with
  | nil => rfl
  | cons entry rest ih =>
      obtain ⟨other, old⟩ := entry
      by_cases same : name = other
      · subst same
        simp [keeps]
      · have unlike : (name == other) = false := by simp [same]
        by_cases keepsOther : kept other = true <;>
          simp [keepsOther, List.lookup_cons, unlike, ih]

end DocScan.Named

namespace DocScan.Environment

/-! ## Variables set one after the other -/

theorem assignAll_cons (environment : Environment) (name value : Text)
    (additions : List (Text × Text)) :
    environment.assignAll ((name, value) :: additions) =
      (environment.assign name value).bind (·.assignAll additions) := rfl

theorem get?_assignAll (additions : List (Text × Text)) (environment later : Environment)
    (distinct : (additions.map Prod.fst).Nodup)
    (assigned : environment.assignAll additions = .ok later) (name : Text) :
    later.get? name = (additions.lookup name).or (environment.get? name) := by
  induction additions generalizing environment with
  | nil =>
      obtain rfl := Except.ok.inj assigned
      rfl
  | cons addition rest ih =>
      obtain ⟨first, value⟩ := addition
      rw [List.map_cons, List.nodup_cons] at distinct
      rw [assignAll_cons] at assigned
      cases settable : fault? first value with
      | some fault =>
          simp only [assign, settable] at assigned
          cases assigned
      | none =>
          rw [assign_of_settable _ _ _ settable] at assigned
          rw [ih (environment.set first value) distinct.2 assigned]
          by_cases same : name = first
          · subst same
            have absent : rest.lookup name = none := by
              rw [List.lookup_eq_none_iff]
              intro entry member
              have unlike : name ≠ entry.1 := fun equal =>
                distinct.1 (List.mem_map.mpr ⟨entry, member, equal.symm⟩)
              simpa using unlike
            rw [absent, get?_set_self, List.lookup_cons_self]
            rfl
          · have unlike : (name == first) = false := by simp [same]
            rw [get?_set_of_ne _ _ _ _ same, List.lookup_cons, unlike]

theorem exists_assignAll_iff (additions : List (Text × Text)) (environment : Environment) :
    (∃ later, environment.assignAll additions = .ok later) ↔
      ∀ addition ∈ additions, fault? addition.1 addition.2 = none := by
  induction additions generalizing environment with
  | nil => exact ⟨fun _ _ member => absurd member List.not_mem_nil, fun _ => ⟨environment, rfl⟩⟩
  | cons addition rest ih =>
      obtain ⟨name, value⟩ := addition
      rw [assignAll_cons, List.forall_mem_cons]
      cases settable : fault? name value with
      | some fault => simp [assign, settable, Except.bind]
      | none =>
          rw [assign_of_settable _ _ _ settable, ← ih (environment.set name value)]
          exact ⟨fun assigned => ⟨rfl, assigned⟩, fun assigned => assigned.2⟩

theorem assignAll_of_new (additions : List (Text × Text)) (environment : Environment)
    (settable : ∀ addition ∈ additions, fault? addition.1 addition.2 = none)
    (distinct : ((environment ++ additions).map Prod.fst).Nodup) :
    environment.assignAll additions = .ok (environment ++ additions) := by
  induction additions generalizing environment with
  | nil => rw [List.append_nil]; rfl
  | cons addition rest ih =>
      obtain ⟨name, value⟩ := addition
      obtain ⟨first, others⟩ := List.forall_mem_cons.mp settable
      have new : name ∉ environment.map Prod.fst := by
        rw [List.map_append, List.nodup_append] at distinct
        exact fun member => distinct.2.2 name member name List.mem_cons_self rfl
      rw [assignAll_cons, assign_of_settable _ _ _ first, Except.bind, set,
        Named.put_of_new name value environment new, ih _ others (by simpa using distinct)]
      simp

end DocScan.Environment

namespace DocScan.EnvFile

/-! ## The last line for a name -/

theorem resolve_concat (preference : Preference) (environment : Environment)
    (lines : List Binding) (line : Binding) :
    resolve preference environment (lines ++ [line]) =
      Named.put line.name (line.value.map
        (interpolate (knownBy preference environment (resolve preference environment lines))))
        (resolve preference environment lines) := by
  simp [resolve]

/-- The last line for a name, and what it binds the name to with what is known at that line. -/
def LastLine (preference : Preference) (environment : Environment) (lines : List Binding)
    (name : Text) (value : Option Text) : Prop :=
  ∃ before written after, lines = before ++ { name, value := written } :: after ∧
    (∀ later ∈ after, later.name ≠ name) ∧
    value = written.map
      (interpolate (knownBy preference environment (resolve preference environment before)))

theorem lastLine_concat_self (preference : Preference) (environment : Environment)
    (lines : List Binding) (line : Binding) (value : Option Text) :
    LastLine preference environment (lines ++ [line]) line.name value ↔
      value = line.value.map
        (interpolate (knownBy preference environment (resolve preference environment lines))) := by
  constructor
  · rintro ⟨before, written, after, split, last, rfl⟩
    rcases List.eq_nil_or_concat after with rfl | ⟨later, final, rfl⟩
    · obtain ⟨rfl, isLine⟩ := List.append_inj' split rfl
      rw [List.singleton_inj.mp isLine]
    · rw [List.concat_eq_append, ← List.cons_append, ← List.append_assoc] at split
      obtain ⟨-, isLine⟩ := List.append_inj' split rfl
      rw [List.singleton_inj.mp isLine] at last
      exact absurd rfl (last final (by simp))
  · rintro rfl
    exact ⟨lines, line.value, [], rfl, by simp, rfl⟩

theorem lastLine_concat_of_ne (preference : Preference) (environment : Environment)
    (lines : List Binding) (line : Binding) (name : Text) (value : Option Text)
    (different : name ≠ line.name) :
    LastLine preference environment (lines ++ [line]) name value ↔
      LastLine preference environment lines name value := by
  constructor
  · rintro ⟨before, written, after, split, last, rfl⟩
    rcases List.eq_nil_or_concat after with rfl | ⟨later, final, rfl⟩
    · obtain ⟨-, isLine⟩ := List.append_inj' split rfl
      rw [List.singleton_inj.mp isLine] at different
      exact absurd rfl different
    · rw [List.concat_eq_append, ← List.cons_append, ← List.append_assoc] at split
      obtain ⟨rfl, -⟩ := List.append_inj' split rfl
      exact ⟨before, written, later, rfl, fun earlier member => last earlier (by simp [member]),
        rfl⟩
  · rintro ⟨before, written, after, rfl, last, rfl⟩
    refine ⟨before, written, after ++ [line], by simp, ?_, rfl⟩
    intro later member
    rcases List.mem_append.mp member with inAfter | isLine
    · exact last later inAfter
    · rw [List.mem_singleton.mp isLine]
      exact different.symm

theorem nodup_names_resolve (preference : Preference) (environment : Environment)
    (lines : List Binding) : ((resolve preference environment lines).map Prod.fst).Nodup := by
  induction lines using List.reverseRecOn with
  | nil => exact List.nodup_nil
  | append_singleton lines line ih =>
      rw [resolve_concat]
      exact Named.nodup_names_put _ _ _ ih

theorem lookup_resolve_eq_some_iff (preference : Preference) (environment : Environment)
    (lines : List Binding) (name : Text) (value : Option Text) :
    (resolve preference environment lines).lookup name = some value ↔
      LastLine preference environment lines name value := by
  induction lines using List.reverseRecOn with
  | nil => simp [resolve, LastLine]
  | append_singleton lines line ih =>
      rw [resolve_concat]
      by_cases same : name = line.name
      · rw [same, Named.lookup_put_self, lastLine_concat_self, Option.some.injEq, eq_comm]
      · rw [Named.lookup_put_of_ne _ _ _ _ same, ih, lastLine_concat_of_ne _ _ _ _ _ _ same]

/-! ## Names that values refer to -/

/-- The names that a text refers to. -/
def referred (text : Text) : List Text :=
  match text with
  | [] => []
  | c :: rest =>
    match _ : referenceAt? (c :: rest) with
    | some (reference, tail) => reference.name :: referred tail
    | none => referred rest
termination_by text.length
decreasing_by
  · exact referenceAt?_lt (c :: rest) (reference, tail) ‹_›
  · simp

section

variable {known : Text → Option (Option Text)} {c : Char} {rest : Text}

theorem referred_reference {reference : Reference} {tail : Text}
    (found : referenceAt? (c :: rest) = some (reference, tail)) :
    referred (c :: rest) = reference.name :: referred tail := by
  rw [referred]
  split <;> simp_all

theorem referred_plain (plain : referenceAt? (c :: rest) = none) :
    referred (c :: rest) = referred rest := by
  rw [referred]
  split <;> simp_all

theorem interpolate_reference {reference : Reference} {tail : Text}
    (found : referenceAt? (c :: rest) = some (reference, tail)) :
    interpolate known (c :: rest) =
      ((known reference.name).getD (some reference.fallback)).getD [] ++
        interpolate known tail := by
  rw [interpolate]
  split <;> simp_all

theorem interpolate_character (plain : referenceAt? (c :: rest) = none) :
    interpolate known (c :: rest) = c :: interpolate known rest := by
  rw [interpolate]
  split <;> simp_all

end

theorem interpolate_congr (known other : Text → Option (Option Text)) (text : Text)
    (same : ∀ name ∈ referred text, known name = other name) :
    interpolate known text = interpolate other text := by
  induction text using referred.induct with
  | case1 => rw [interpolate, interpolate]
  | case2 c rest reference tail found ih =>
      rw [referred_reference found, List.forall_mem_cons] at same
      rw [interpolate_reference found, interpolate_reference found, same.1, ih same.2]
  | case3 c rest plain ih =>
      rw [referred_plain plain] at same
      rw [interpolate_character plain, interpolate_character plain, ih same]

/-- A set of names that holds whatever a line for one of them refers to. -/
def Closed (heeded : Text → Bool) (lines : List Binding) : Prop :=
  ∀ line ∈ lines, heeded line.name = true → ∀ written, line.value = some written →
    ∀ name ∈ referred written, heeded name = true

theorem resolve_filter (preference : Preference) (environment other : Environment)
    (heeded : Text → Bool) (lines : List Binding) (closed : Closed heeded lines)
    (alike : ∀ name, heeded name = true → other.get? name = environment.get? name) :
    resolve preference other (lines.filter (heeded ·.name)) =
      (resolve preference environment lines).filter (heeded ·.1) := by
  induction lines using List.reverseRecOn with
  | nil => rfl
  | append_singleton lines line ih =>
      have closedBefore : Closed heeded lines := fun earlier member =>
        closed earlier (List.mem_append_left _ member)
      specialize ih closedBefore
      rw [List.filter_append, resolve_concat]
      cases counts : heeded line.name with
      | true =>
          have value : line.value.map (interpolate (knownBy preference other
                (resolve preference other (lines.filter (heeded ·.name))))) =
              line.value.map (interpolate (knownBy preference environment
                (resolve preference environment lines))) := by
            apply Option.map_congr
            intro written isWritten
            apply interpolate_congr
            intro name refers
            have heeds := closed line (by simp) counts written isWritten name refers
            simp only [knownBy, ih, Named.lookup_filter heeded name _ heeds, alike name heeds]
          rw [List.filter_singleton, counts, cond_true, resolve_concat, value, ih,
            Named.filter_put_of_kept heeded _ _ _ counts]
      | false =>
          rw [List.filter_singleton, counts, cond_false, List.append_nil, ih,
            Named.filter_put_of_not_kept heeded _ _ _ counts]

/-! ## What a file adds to the environment -/

theorem mem_additions_iff (environment : Environment) (content : Text) (name value : Text) :
    (name, value) ∈ additions environment content ↔
      environment.get? name = none ∧
        LastLine .environment environment (bindings content) name (some value) := by
  rw [← lookup_resolve_eq_some_iff, ← Named.mem_iff_lookup _ (nodup_names_resolve _ _ _), additions,
    List.mem_filterMap]
  constructor
  · rintro ⟨⟨other, bound⟩, member, added⟩
    dsimp only at added
    split at added
    · rename_i written unset
      obtain ⟨rfl, rfl⟩ := Prod.mk.inj (Option.some.inj added)
      exact ⟨unset, member⟩
    · cases added
  · rintro ⟨unset, member⟩
    refine ⟨(name, some value), member, ?_⟩
    simp only [unset]

theorem nodup_names_additions (environment : Environment) (content : Text) :
    ((additions environment content).map Prod.fst).Nodup := by
  have distinct := nodup_names_resolve .environment environment (bindings content)
  rw [List.Nodup, List.pairwise_map] at distinct ⊢
  rw [additions, List.pairwise_filterMap]
  refine distinct.imp ?_
  rintro ⟨name, bound⟩ ⟨other, alsoBound⟩ different addition added further alsoAdded
  dsimp only at added alsoAdded
  split at added
  · split at alsoAdded
    · obtain rfl := Option.some.inj added
      obtain rfl := Option.some.inj alsoAdded
      exact different
    · cases alsoAdded
  · cases added

/-- An extended environment still has what was set before. Of the other names it has those that
their last lines bind to a value. -/
theorem get?_extend_eq_some_iff (environment later : Environment) (content : Text)
    (extended : extend environment content = .ok later) (name value : Text) :
    later.get? name = some value ↔
      environment.get? name = some value ∨
        environment.get? name = none ∧
          LastLine .environment environment (bindings content) name (some value) := by
  have distinct := nodup_names_additions environment content
  have added (bound : Text) : (additions environment content).lookup name = some bound ↔
      environment.get? name = none ∧
        LastLine .environment environment (bindings content) name (some bound) := by
    rw [← Named.mem_iff_lookup _ distinct, mem_additions_iff]
  rw [Environment.get?_assignAll _ _ _ distinct extended, Option.or_eq_some_iff, added]
  cases isSet : environment.get? name with
  | some old =>
      have absent : (additions environment content).lookup name = none := by
        rw [Option.eq_none_iff_forall_ne_some]
        intro bound isAdded
        rw [((added bound).mp isAdded).1] at isSet
        cases isSet
      simp [absent]
  | none => simp

theorem exists_extend_iff (environment : Environment) (content : Text) :
    (∃ later, extend environment content = .ok later) ↔
      ∀ name value, environment.get? name = none →
        LastLine .environment environment (bindings content) name (some value) →
        Environment.fault? name value = none := by
  rw [extend, Environment.exists_assignAll_iff]
  constructor
  · intro settable name value unset line
    exact settable (name, value) ((mem_additions_iff _ _ _ _).mpr ⟨unset, line⟩)
  · rintro settable ⟨name, value⟩ member
    obtain ⟨unset, line⟩ := (mem_additions_iff _ _ _ _).mp member
    exact settable name value unset line

end DocScan.EnvFile
