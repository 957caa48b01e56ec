import DocScan.Proofs.Command.Scope

/-!
# Classifying a name

The flags of the command that classifies may stand in front of the name and behind it, in any order
and any number of times. What is printed depends on the name, on the last of the flags that say
whether the type is an array, and on which of the other two flags are there at all.
-/

namespace DocScan.Command

/-! ## Words that stand for options -/

section

variable {α β : Type} {switches : List (Switch α)}

/-- The word is an option that waits for no value. -/
structure StandsFor (switches : List (Switch α)) (word : Text) (value : α) : Prop where
  isOption : isOption word = true
  goesOn : word ≠ longMark
  read : readWord switches word = .ok ([value], none)

theorem parse_option {mixed : Bool} {word : Text} {value : α}
    (stands : StandsFor switches word value) (rest : List Text) :
    parse switches mixed (word :: rest) = (parse switches mixed rest).map fun parsed =>
      { parsed with found := value :: parsed.found } := by
  rw [parse, parseAfter]
  simp only [if_neg stands.goesOn, stands.isOption, if_true, stands.read]
  rfl

theorem parse_argument {word : Text} (plain : isOption word = false) (goesOn : word ≠ longMark)
    (rest : List Text) :
    parse switches true (word :: rest) = (parse switches true rest).map fun parsed =>
      { parsed with arguments := word :: parsed.arguments } := by
  rw [parse, parseAfter]
  simp only [if_neg goesOn, plain, Bool.false_eq_true, if_false, if_true]
  rfl

theorem parse_options {word : β → Text} {value : β → α}
    (stands : ∀ flag, StandsFor switches (word flag) (value flag)) (flags : List β)
    {rest : List Text} {parsed : Parsed α} (behind : parse switches true rest = .ok parsed) :
    parse switches true (flags.map word ++ rest) =
      .ok { parsed with found := flags.map value ++ parsed.found } := by
  induction flags with
  | nil => exact behind
  | cons flag flags ih =>
      rw [List.map_cons, List.cons_append, parse_option (stands flag), ih]
      rfl

end

/-! ## Flags -/

inductive Flag where
  | array (on : Bool)
  | enumeration
  | primitiveOnly
deriving DecidableEq, Repr

namespace Flag

def word : Flag → Text
  | .array true => "--array".toList
  | .array false => "--no-array".toList
  | .enumeration => "--enum".toList
  | .primitiveOnly => "--primitive-only".toList

def option : Flag → ClassifyOption
  | .array on => .array on
  | .enumeration => .enumeration
  | .primitiveOnly => .primitiveOnly

theorem standsFor (flag : Flag) : StandsFor classifySwitches flag.word flag.option := by
  rcases flag with on | _ | _
  · cases on
    · exact ⟨by decide, by decide, rfl⟩
    · exact ⟨by decide, by decide, rfl⟩
  · exact ⟨by decide, by decide, rfl⟩
  · exact ⟨by decide, by decide, rfl⟩

end Flag

def arranged (before : List Flag) (name : Text) (after : List Flag) : List Text :=
  before.map Flag.word ++ name :: after.map Flag.word

theorem parse_arranged {name : Text} (plain : name.head? ≠ some '-') (before after : List Flag) :
    parse classifySwitches true (arranged before name after) =
      .ok { found := (before ++ after).map Flag.option, arguments := [name] } := by
  have isArgument : isOption name = false := by simp [isOption, plain]
  have goesOn : name ≠ longMark := by
    rintro rfl
    exact plain rfl
  have behind : parse classifySwitches true (after.map Flag.word) =
      .ok { found := after.map Flag.option } := by
    have nothing : parse classifySwitches true [] = .ok {} := rfl
    have all := parse_options Flag.standsFor after nothing
    rwa [List.append_nil, List.append_nil] at all
  have whole : parse classifySwitches true (name :: after.map Flag.word) =
      .ok { found := after.map Flag.option, arguments := [name] } := by
    rw [parse_argument isArgument goesOn, behind]
    rfl
  rw [arranged, parse_options Flag.standsFor before whole, List.map_append]

/-! ## What flags say -/

/-- The last flag that says whether the type is an array says this. -/
def LastArray (flags : List Flag) (on : Bool) : Prop :=
  ∃ before after, flags = before ++ .array on :: after ∧ ∀ other, .array other ∉ after

/-- The type counts as an array or not: as the last such flag says, or else as the name does. -/
inductive IsArray (name : Text) (flags : List Flag) : Bool → Prop
  | explicit (on : Bool) (last : LastArray flags on) : IsArray name flags on
  | derived (silent : ∀ other, .array other ∉ flags) :
      IsArray name flags (decide (Descriptor.arraySuffix <:+ name))

def Flag.array? (flag : Flag) : Option Bool := flag.option.array?

theorem Flag.array?_eq_some_iff (flag : Flag) (on : Bool) :
    flag.array? = some on ↔ flag = .array on := by
  cases flag <;> simp [Flag.array?, Flag.option, ClassifyOption.array?]

theorem filterMap_array?_eq_nil_iff (flags : List Flag) :
    flags.filterMap Flag.array? = [] ↔ ∀ other, .array other ∉ flags := by
  rw [List.filterMap_eq_nil_iff]
  constructor
  · intro silent other member
    cases silent _ member
  · intro silent flag member
    refine Option.eq_none_iff_forall_ne_some.mpr fun on given => ?_
    rw [Flag.array?_eq_some_iff] at given
    exact silent on (given ▸ member)

theorem lastArray_iff (flags : List Flag) (on : Bool) :
    LastArray flags on ↔ (flags.filterMap Flag.array?).getLast? = some on := by
  rw [List.getLast?_eq_some_iff]
  constructor
  · rintro ⟨before, after, rfl, silent⟩
    have given : Flag.array? (.array on) = some on := rfl
    rw [List.filterMap_append, List.filterMap_cons_some given,
      (filterMap_array?_eq_nil_iff after).mpr silent]
    exact ⟨_, rfl⟩
  · rintro ⟨front, cut⟩
    obtain ⟨before, rest, rfl, -, last⟩ := List.filterMap_eq_append_iff.mp cut
    obtain ⟨skipped, flag, after, rfl, -, given, silent⟩ := List.filterMap_eq_cons_iff.mp last
    rw [Flag.array?_eq_some_iff] at given
    subst given
    exact ⟨before ++ skipped, after, (List.append_assoc _ _ _).symm,
      (filterMap_array?_eq_nil_iff after).mp silent⟩

theorem isArray_iff (name : Text) (flags : List Flag) (on : Bool) :
    IsArray name flags on ↔
      (flags.filterMap Flag.array?).getLast?.getD (Descriptor.arraySuffix.isSuffixOf name) =
        on := by
  have derived : Descriptor.arraySuffix.isSuffixOf name =
      decide (Descriptor.arraySuffix <:+ name) := by
    rw [Bool.eq_iff_iff, List.isSuffixOf_iff_suffix, decide_eq_true_iff]
  constructor
  · intro isArray
    cases isArray with
    | explicit _ last => rw [(lastArray_iff flags on).mp last, Option.getD_some]
    | derived silent =>
        rw [(filterMap_array?_eq_nil_iff flags).mpr silent, List.getLast?_nil, Option.getD_none,
          derived]
  · rintro rfl
    cases last : (flags.filterMap Flag.array?).getLast? with
    | none =>
        rw [List.getLast?_eq_none_iff, filterMap_array?_eq_nil_iff] at last
        rw [Option.getD_none, derived]
        exact .derived last
    | some given => exact .explicit given ((lastArray_iff flags given).mpr last)

/-! ## What is printed -/

/-- The label of the kind that the table of the primitive types has for a name, or another text if
the name is not in it. -/
def tableLabel (name otherwise : Text) : Text :=
  ((Kind.primitive? name).map Kind.label).getD otherwise

inductive Prints (name : Text) (flags : List Flag) : Text → Prop
  | primitive (asked : .primitiveOnly ∈ flags) : Prints name flags (tableLabel name "none".toList)
  | enumeration (unasked : .primitiveOnly ∉ flags) (flagged : .enumeration ∈ flags) :
      Prints name flags "enum".toList
  | array (unasked : .primitiveOnly ∉ flags) (unflagged : .enumeration ∉ flags)
      (isArray : IsArray name flags true) : Prints name flags "array".toList
  | single (unasked : .primitiveOnly ∉ flags) (unflagged : .enumeration ∉ flags)
      (single : IsArray name flags false) : Prints name flags (tableLabel name "object".toList)

theorem requestedDescriptor_eq (name : Text) (array : Option Bool) (isEnum : Bool) :
    requestedDescriptor name array isEnum =
      { name, isArray := array.getD (Descriptor.arraySuffix.isSuffixOf name), isEnum } := by
  cases array <;> rfl

theorem label_eq (descriptor : Descriptor) (primitiveOnly : Bool) :
    label descriptor primitiveOnly =
      if primitiveOnly then tableLabel descriptor.name "none".toList
      else if descriptor.isEnum then "enum".toList
      else if descriptor.isArray then "array".toList
      else tableLabel descriptor.name "object".toList := by
  obtain ⟨name, isArray, isEnum⟩ := descriptor
  cases primitiveOnly
  · cases isEnum
    · cases isArray
      · simp only [label, Descriptor.classify, Descriptor.primitive?, tableLabel,
          Bool.false_eq_true, if_false]
        cases Kind.primitive? name <;> rfl
      · rfl
    · rfl
  · rfl

theorem prints_iff (name : Text) (flags : List Flag) (text : Text) :
    Prints name flags text ↔
      label (requestedDescriptor name (flags.filterMap Flag.array?).getLast?
        (decide (.enumeration ∈ flags))) (decide (.primitiveOnly ∈ flags)) = text := by
  have isArray := isArray_iff name flags
  rw [requestedDescriptor_eq, label_eq]
  generalize (flags.filterMap Flag.array?).getLast?.getD
    (Descriptor.arraySuffix.isSuffixOf name) = decided at isArray ⊢
  constructor
  · intro prints
    cases prints with
    | primitive asked => simp [asked]
    | enumeration unasked flagged => simp [unasked, flagged]
    | array unasked unflagged on =>
        obtain rfl := (isArray true).mp on
        simp [unasked, unflagged]
    | single unasked unflagged off =>
        obtain rfl := (isArray false).mp off
        simp [unasked, unflagged]
  · rintro rfl
    by_cases asked : .primitiveOnly ∈ flags
    · simpa [asked] using Prints.primitive asked
    · by_cases flagged : .enumeration ∈ flags
      · simpa [asked, flagged] using Prints.enumeration asked flagged
      · cases decided with
        | true => simpa [asked, flagged] using Prints.array asked flagged ((isArray true).mpr rfl)
        | false =>
            simpa [asked, flagged] using Prints.single asked flagged ((isArray false).mpr rfl)

/-! ## Runs -/

/-- Flags that say the same, however they are arranged. -/
structure Alike (flags others : List Flag) : Prop where
  array : ∀ on, LastArray flags on ↔ LastArray others on
  enumeration : .enumeration ∈ flags ↔ .enumeration ∈ others
  primitiveOnly : .primitiveOnly ∈ flags ↔ .primitiveOnly ∈ others

theorem Alike.prints_iff {flags others : List Flag} (alike : Alike flags others)
    (name text : Text) : Prints name flags text ↔ Prints name others text := by
  have last : (flags.filterMap Flag.array?).getLast? = (others.filterMap Flag.array?).getLast? :=
    Option.ext fun on => by rw [← lastArray_iff, alike.array, lastArray_iff]
  rw [Command.prints_iff, Command.prints_iff, last]
  simp only [alike.enumeration, alike.primitiveOnly]

theorem request_arranged {name : Text} (plain : name.head? ≠ some '-') (before after : List Flag) :
    Name.request .classify (arranged before name after) =
      .ok (.classify name ((before ++ after).filterMap Flag.array?).getLast?
        (decide (.enumeration ∈ before ++ after)) (decide (.primitiveOnly ∈ before ++ after))) := by
  generalize all : before ++ after = flags
  have mem_option_iff (flag : Flag) : flag.option ∈ flags.map Flag.option ↔ flag ∈ flags := by
    refine List.mem_map_of_injective fun flag other same => ?_
    cases flag <;> cases other <;> cases same <;> rfl
  have noHelp : .help ∉ flags.map Flag.option := by
    rw [List.mem_map]
    rintro ⟨_ | _ | _, -, same⟩ <;> cases same
  have arrays : (flags.map Flag.option).filterMap ClassifyOption.array? =
      flags.filterMap Flag.array? := List.filterMap_map
  have enumeration := mem_option_iff .enumeration
  have primitiveOnly := mem_option_iff .primitiveOnly
  simp only [Flag.option] at enumeration primitiveOnly
  simp only [Name.request, requestOf, parse_arranged plain, all, classifyRequest, if_neg noHelp,
    arrays, enumeration, primitiveOnly]
  rfl

def State.HasSettings (state : State) : Prop :=
  ∃ loaded, (state.cache.get state.toSurroundings).1 = .ok loaded

theorem run_arranged (spell : Nat → Text) {state : State} (valid : state.HasSettings)
    (supply : Input.Supply) {name : Text} (plain : name.head? ≠ some '-') {before after : List Flag}
    {text : Text} (prints : Prints name (before ++ after) text) :
    let outcome := (run spell state supply ("classify".toList :: arranged before name after)).1
    outcome.ending = .exit 0 ∧ outcome.outputs = [.verbatim text false] := by
  obtain ⟨⟨settings, build⟩, loaded⟩ := valid
  obtain ⟨cache, ran⟩ :=
    run_named spell state supply loaded .classify (arranged before name after)
  have reported (loaded : Except Settings.Arguments.Refusal Settings) :
      reportOf .classify (arranged before name after) loaded supply =
        classify name ((before ++ after).filterMap Flag.array?).getLast?
          (decide (.enumeration ∈ before ++ after))
          (decide (.primitiveOnly ∈ before ++ after)) := by
    rw [reportOf, request_arranged plain]
    rfl
  have printed := (prints_iff name (before ++ after) text).mp prints
  rw [show "classify".toList = Name.text .classify from rfl, ran]
  rw [runCommand, reported, classify, printed]
  exact ⟨rfl, rfl⟩

/-- Under valid settings a name with flags in front of it and behind it is classified: the run
succeeds and prints one label. Flags that say the same in another arrangement print the same label,
whatever else the run finds. -/
theorem run_classify (spell : Nat → Text) {state : State} (valid : state.HasSettings)
    (supply : Input.Supply) {name : Text} (plain : name.head? ≠ some '-')
    (before after : List Flag) :
    let outcome := (run spell state supply ("classify".toList :: arranged before name after)).1
    outcome.ending = .exit 0 ∧ ∃ text, outcome.outputs = [.verbatim text false] ∧
      (∀ other, Prints name (before ++ after) other ↔ other = text) ∧
      ∀ front back, Alike (before ++ after) (front ++ back) →
        ∀ spell (state : State) supply, state.HasSettings →
          (run spell state supply ("classify".toList :: arranged front name back)).1.outputs =
            outcome.outputs := by
  intro outcome
  obtain ⟨text, printed⟩ : ∃ text, ∀ other, Prints name (before ++ after) other ↔ other = text :=
    ⟨_, fun other => (prints_iff name (before ++ after) other).trans eq_comm⟩
  have prints : Prints name (before ++ after) text := (printed text).mpr rfl
  obtain ⟨ended, puts⟩ := run_arranged spell valid supply plain prints
  refine ⟨ended, text, puts, printed, fun front back alike spell state supply valid => ?_⟩
  have others := run_arranged spell valid supply plain ((alike.prints_iff name text).mp prints)
  exact others.2.trans puts.symm

/-- A name that ends like an array, the last flag for arrays taking it for none. -/
theorem run_classify_bytes :
    let outcome := (run Text.ofNat {} {}
      ("classify".toList :: arranged [.array true] "byte[]".toList [.array false])).1
    (State.HasSettings {} ∧ "byte[]".toList.head? ≠ some '-') ∧
      outcome.ending = .exit 0 ∧ outcome.outputs = [.verbatim "string".toList false] ∧
      (run Text.ofNat {} {} ("classify".toList ::
        arranged [.array false, .array true, .array false] "byte[]".toList [])).1.outputs =
          outcome.outputs := by
  have valid : State.HasSettings {} := ⟨({}, 0), rfl⟩
  have plain : "byte[]".toList.head? ≠ some '-' := by decide
  obtain ⟨ended, text, puts, printed, others⟩ :=
    run_classify Text.ofNat valid {} plain [.array true] [.array false]
  have single : IsArray "byte[]".toList ([.array true] ++ [.array false]) false :=
    .explicit false ⟨[.array true], [], rfl, by simp⟩
  have prints : Prints "byte[]".toList ([.array true] ++ [.array false]) "string".toList :=
    .single (by decide) (by decide) single
  have alike : Alike ([.array true] ++ [.array false])
      ([.array false, .array true, .array false] ++ []) :=
    { array := fun on => by rw [lastArray_iff, lastArray_iff]; exact Iff.rfl
      enumeration := by decide
      primitiveOnly := by decide }
  obtain rfl := (printed _).mp prints
  exact ⟨⟨valid, plain⟩, ended, puts, others _ _ alike Text.ofNat {} {} valid⟩

end DocScan.Command
