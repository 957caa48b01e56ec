import DocScan.Proofs.Settings.Course
import DocScan.Proofs.Settings.Loading
import DocScan.Proofs.Settings.Spelling

/-!
# Settings that are given back

Settings that were loaded once are valid, and they are loaded again wherever they are given back: as
arguments, whatever else there is, or in the environment, however they are spelled there.
-/

namespace DocScan.Settings

def Admitted (settings : Settings) : Prop :=
  ∃ arguments environment homes files file,
    loadWith arguments environment homes files file = .ok settings

/-! ## Settings that were loaded -/

theorem exists_load_of_loadWith {arguments : Json.Members} {environment : Environment}
    {homes : Homes} {files : Files} {file : Option Text} {settings : Settings}
    (loaded : loadWith arguments environment homes files file = .ok settings) :
    ∃ sources, load sources = .ok settings := by
  rw [loadWith] at loaded
  by_cases repeated : (arguments.find? "_env_file".toList).isSome = true
  · rw [if_pos repeated] at loaded
    cases loaded
  · rw [if_neg repeated] at loaded
    cases file
    all_goals
      simp only [bind_eq_ok_iff, mapError_eq_ok_iff] at loaded
      obtain ⟨bound, -, search, -, secrets, -, loaded⟩ := loaded
      exact ⟨_, loaded⟩

theorem limit_of_loadWith {arguments : Json.Members} {environment : Environment}
    {homes : Homes} {files : Files} {file : Option Text} {settings : Settings}
    (loaded : loadWith arguments environment homes files file = .ok settings) :
    1 ≤ settings.limit := by
  obtain ⟨sources, loaded⟩ := exists_load_of_loadWith loaded
  have taken : Taken limitOf (10 * 1024 * 1024) (winning sources .limit) settings.limit :=
    (load_eq_ok_iff sources settings).mp loaded .limit
  cases won : winning sources .limit with
  | none =>
      rw [won] at taken
      obtain held : settings.limit = 10 * 1024 * 1024 := taken
      omega
  | some value =>
      rw [won] at taken
      obtain ⟨limit, -, bounded⟩ := bind_eq_ok_iff.mp taken
      split at bounded
      · cases bounded
      · obtain rfl : limit = settings.limit := Except.ok.inj bounded
        omega

/-! ## Values of which settings are taken -/

theorem Supply.load_of_takes {supply : Supply} {settings : Settings}
    (takes : ∀ field : Field, field.Takes settings (winning supply.sources field)) :
    supply.load = .ok settings := by
  rw [supply.load_eq, (load_eq_ok_iff _ _).mpr takes]
  rfl

theorem levelOf_text_iff {level : Log.Level} {text : Text} :
    levelOf (.text text) = .ok level ↔ SpellsLevel level text := by
  rw [← ofSetting?_eq_some_iff]
  simp only [levelOf, textOf, bind, Except.bind]
  cases Log.Level.ofSetting? text with
  | none => simp [throw, throwThe, MonadExceptOf.throw]
  | some found => simp [pure, Except.pure]

theorem limitOf_of_integerOf {value : Json.Value} {limit : Int} (valid : 1 ≤ limit)
    (read : integerOf value = .ok limit) : limitOf value = .ok limit := by
  simp only [limitOf, read, bind, Except.bind, if_neg (Int.not_lt.mpr valid)]
  rfl

theorem Supply.argument?_of_only {supply : Supply} {field : Field} {name : Text}
    {value : Json.Value} (given : (name, value) ∈ supply.arguments) (named : field.IsArgument name)
    (only : ∀ argument ∈ supply.arguments, field.IsArgument argument.1 → argument = (name, value)) :
    argument? supply.sources field = some value := by
  cases found : argument? supply.sources field with
  | none => exact absurd named (argument?_eq_none_iff.mp found _ given)
  | some other =>
      obtain ⟨argument, first, rfl⟩ := Option.map_eq_some_iff.mp found
      have asked : field.IsArgument argument.1 := by
        simpa [Field.IsArgument] using List.find?_some first
      rw [only argument (List.mem_of_find?_eq_some first) asked]

variable {settings : Settings}

namespace Field

def value (settings : Settings) : Field → Json.Value
  | .level => .text settings.level.name
  | .json => .bool settings.json
  | .encoding => .text settings.encoding
  | .limit => .int settings.limit

/-- The text spells what the settings hold for a field. Numbers that are too long are not read. -/
def Spells (settings : Settings) (text : Text) : Field → Prop
  | .level => SpellsLevel settings.level text
  | .json => SpellsFlag settings.json text
  | .encoding => text = settings.encoding
  | .limit => SpellsWhole settings.limit.toNat text ∧ text.length ≤ maxDigits

theorem takes_value (valid : 1 ≤ settings.limit) (field : Field) :
    field.Takes settings (some (field.value settings)) := by
  cases field with
  | level => exact levelOf_text_iff.mpr (spellsLevel_name settings.level)
  | json => rfl
  | encoding => rfl
  | limit => exact limitOf_of_integerOf valid (integerOf_int settings.limit)

theorem takes_text (valid : 1 ≤ settings.limit) {field : Field} {text : Text}
    (spells : field.Spells settings text) : field.Takes settings (some (.text text)) := by
  cases field with
  | level => exact levelOf_text_iff.mpr spells
  | json => exact flagOf_word text settings.json (wordFlag?_of_spellsFlag spells)
  | encoding =>
      obtain rfl : text = settings.encoding := spells
      rfl
  | limit =>
      obtain ⟨whole, short⟩ := spells
      refine limitOf_of_integerOf valid ?_
      have positive : 0 < settings.limit.toNat := by omega
      have same : (settings.limit.toNat : Int) = settings.limit := Int.toNat_of_nonneg (by omega)
      rw [← same]
      exact spelledInteger_of_spellsWhole positive whole short

theorem mem_all (field : Field) : field ∈ all := by cases field <;> decide

theorem isArgument_name {field other : Field} (same : field.IsArgument other.name) :
    other = field := by
  revert same
  cases field <;> cases other <;> decide

end Field

/-! ## Settings as arguments -/

def arguments (settings : Settings) : Json.Members :=
  Field.all.map fun field => (field.name, field.value settings)

theorem Supply.load_values {supply : Supply} (valid : 1 ≤ settings.limit)
    (values : supply.arguments.Perm settings.arguments) : supply.load = .ok settings := by
  refine load_of_takes fun field => ?_
  have given : (field.name, field.value settings) ∈ supply.arguments :=
    values.mem_iff.mpr (List.mem_map.mpr ⟨field, field.mem_all, rfl⟩)
  have only : ∀ argument ∈ supply.arguments, field.IsArgument argument.1 →
      argument = (field.name, field.value settings) := by
    intro argument member named
    obtain ⟨other, -, rfl⟩ := List.mem_map.mp (values.mem_iff.mp member)
    obtain rfl := Field.isArgument_name named
    rfl
  have named : field.IsArgument field.name := by cases field <;> decide
  rw [winning_argument _ _ _ (argument?_of_only given named only)]
  exact field.takes_value valid

/-! ## Settings in the environment -/

/-- The environment spells all settings, each at least once. -/
def SpelledBy (settings : Settings) (environment : Environment) : Prop :=
  ∀ field : Field, (∃ entry ∈ environment, field.IsVariable entry.1) ∧
    ∀ entry ∈ environment, field.IsVariable entry.1 → field.Spells settings entry.2

theorem Supply.load_spelled {supply : Supply} (valid : 1 ≤ settings.limit)
    (unasked : ∀ field, supply.Unasked field) (spelled : SpelledBy settings supply.environment) :
    supply.load = .ok settings := by
  refine load_of_takes fun field => ?_
  obtain ⟨⟨entry, set, named⟩, spells⟩ := spelled field
  rw [winning_eq, argument?_eq_none_iff.mpr (unasked field), Option.none_or]
  cases found : Search.last? {} supply.environment (Search.variableName {} field.name) with
  | none =>
      exact absurd ((field.isVariable_iff _).mp named)
        ((Search.last?_eq_none_iff {} _ _).mp found entry set)
  | some text =>
      -- Any of the variables for the setting may win, for each of them holds a spelling.
      obtain ⟨name, member, same⟩ := Search.exists_of_last?_eq_some {} _ _ _ found
      exact field.takes_text valid
        (spells (name, text) member ((field.isVariable_iff name).mpr same))

namespace Field

def usualName (field : Field) : Text := "SCHEMASCAN_".toList ++ field.name.map Char.toUpper

theorem isVariable_usualName_iff {field other : Field} :
    field.IsVariable other.usualName ↔ other = field := by
  cases field <;> cases other <;> decide

theorem settable_usualName (field : Field) {text : Text} (noTerminator : '\x00' ∉ text) :
    Environment.fault? field.usualName text = none := by
  simp only [Environment.fault?, noTerminator, or_false]
  cases field <;> decide

theorem terminator_not_mem_of_spells (plain : '\x00' ∉ settings.encoding) {field : Field}
    {text : Text} (spells : field.Spells settings text) : '\x00' ∉ text := by
  cases field with
  | level => exact terminator_not_mem_of_spellsLevel spells
  | json => exact terminator_not_mem_of_spellsFlag spells
  | encoding =>
      obtain rfl : text = settings.encoding := spells
      exact plain
  | limit => exact terminator_not_mem_of_spellsWhole spells.1

end Field

def exported (texts : Field → Text) : Environment :=
  Field.all.map fun field => (field.usualName, texts field)

theorem assignAll_exported {texts : Field → Text} (noTerminator : ∀ field, '\x00' ∉ texts field) :
    Environment.assignAll [] (exported texts) = .ok (exported texts) := by
  have names : (exported texts).map Prod.fst = Field.all.map Field.usualName := by simp [exported]
  have distinct : (Field.all.map Field.usualName).Nodup := by decide
  refine Environment.assignAll_of_new _ [] (fun addition member => ?_) (names ▸ distinct)
  obtain ⟨field, -, rfl⟩ := List.mem_map.mp member
  exact field.settable_usualName (noTerminator field)

theorem spelledBy_exported {texts : Field → Text}
    (spelled : ∀ field : Field, field.Spells settings (texts field)) :
    SpelledBy settings (exported texts) := by
  intro field
  refine ⟨⟨_, List.mem_map.mpr ⟨field, field.mem_all, rfl⟩,
    Field.isVariable_usualName_iff.mpr rfl⟩, fun entry member named => ?_⟩
  obtain ⟨other, -, rfl⟩ := List.mem_map.mp member
  obtain rfl := Field.isVariable_usualName_iff.mp named
  exact spelled other

def Supply.ofEnvironment (environment : Environment) (homes : Homes) (files : Files) : Supply where
  arguments := []
  environment := environment
  homes := homes
  files := files
  file := none
  lines := []
  noOptions := by simp
  fileLines := .unasked

theorem loadWith_spelled (valid : 1 ≤ settings.limit) {environment : Environment}
    (spelled : SpelledBy settings environment) (homes : Homes) (files : Files) :
    loadWith [] environment homes files none = .ok settings :=
  (Supply.ofEnvironment environment homes files).load_spelled valid
    (fun _ _ member => absurd member List.not_mem_nil) spelled

/-! ## Stability -/

/-- Settings that were ever loaded are valid. They are loaded again from their values as arguments,
in any order and whatever else there is; from any environment that spells them, without arguments
for settings; and from the usual variables alone, which can be set to all of these spellings. -/
theorem admitted_stable {settings : Settings} (admitted : Admitted settings) :
    (settings.level.name ∈ Log.Level.names ∧ 1 ≤ settings.limit) ∧
    (∀ supply : Supply, supply.arguments.Perm settings.arguments →
      supply.load = .ok settings) ∧
    (∀ supply : Supply, (∀ field, supply.Unasked field) →
      SpelledBy settings supply.environment → supply.load = .ok settings) ∧
    ∀ texts : Field → Text, (∀ field : Field, field.Spells settings (texts field)) →
      (∀ homes files, loadWith [] (exported texts) homes files none = .ok settings) ∧
      ('\x00' ∉ settings.encoding →
        Environment.assignAll [] (exported texts) = .ok (exported texts)) := by
  obtain ⟨arguments, environment, homes, files, file, loaded⟩ := admitted
  have valid := limit_of_loadWith loaded
  refine ⟨⟨?level, valid⟩, ?arguments, ?environment, ?exported⟩
  case level => cases settings.level <;> decide
  case arguments =>
    intro supply values
    exact supply.load_values valid values
  case environment =>
    intro supply unasked spelled
    exact supply.load_spelled valid unasked spelled
  case exported =>
    intro texts spelled
    exact ⟨loadWith_spelled valid (spelledBy_exported spelled), fun plain =>
      assignAll_exported fun field => Field.terminator_not_mem_of_spells plain (spelled field)⟩

/-- Settings with an encoding that nothing knows. -/
def oddSettings : Settings :=
  { level := .debug, json := false, encoding := "\tü=$\n".toList, limit := 1048576 }

def oddTexts : Field → Text
  | .level => "\t deBug\u2003".toList
  | .json => "fAlSe".toList
  | .encoding => "\tü=$\n".toList
  | .limit => " +01_048_576.000\n".toList

theorem admitted_stable_odd :
    loadWith oddSettings.arguments [] .standard {} none = .ok oddSettings ∧
    loadWith [] (exported oddTexts) .standard {} none = .ok oddSettings ∧
    Environment.assignAll [] (exported oddTexts) = .ok (exported oddTexts) := by
  have loaded : loadWith oddSettings.arguments [] .standard {} none = .ok oddSettings := by
    decide +kernel
  have grouped : Grouped "01_048_576".toList :=
    .next rfl (.mark rfl (.next rfl (.next rfl (.mark rfl (.next rfl (.next rfl (.single rfl)))))))
  have spelled : ∀ field : Field, field.Spells oddSettings (oddTexts field) := by
    intro field
    cases field with
    | level =>
        exact .intro "\t ".toList "deBug".toList ['\u2003'] (List.all_eq_true.mp (by decide))
          (by decide) (List.all_eq_true.mp (by decide))
    | json => exact rfl
    | encoding => rfl
    | limit =>
        exact ⟨.intro [' '] ['+'] "01_048_576".toList ".000".toList ['\n']
          (List.all_eq_true.mp (by decide)) .plus grouped (by decide) (.zeros 2)
          (List.all_eq_true.mp (by decide)), by decide⟩
  obtain ⟨-, -, -, environment⟩ := admitted_stable ⟨_, _, _, _, _, loaded⟩
  obtain ⟨loads, assigns⟩ := environment oddTexts spelled
  exact ⟨loaded, loads .standard {}, assigns (by decide)⟩

end DocScan.Settings
