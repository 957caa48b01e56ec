import DocScan.Proofs.Command.Classifying
import DocScan.Proofs.Settings.Stability

/-!
# Requested levels

A requested level is looked at three times: the gate trims it and lets it pass if it names a level,
the set-up of the log looks up what has passed, and settings that are given the same text trim it
once more. They agree about every text, and what the gate stops changes nothing.
-/

namespace DocScan.Settings

/-! ## Levels that are given to settings -/

theorem issue?_level_eq_none_iff (given : Text) :
    Field.issue? .level (some (.text given)) = none ↔ ∃ level, SpellsLevel level given := by
  simp only [← levelOf_text_iff, Field.issue?, Option.bind_some, Field.fault?]
  cases levelOf (.text given) <;> simp [faultOf]

theorem exists_load_iff (sources : Sources) :
    (∃ settings, load sources = .ok settings) ↔
      ∀ field : Field, field.issue? (winning sources field) = none := by
  have valid : issues sources = [] ↔
      ∀ field : Field, field.issue? (winning sources field) = none := by
    rw [issues_eq, List.filterMap_eq_nil_iff]
    exact ⟨fun valid field => valid field field.mem_all, fun valid field _ => valid field⟩
  rw [← valid]
  constructor
  · rintro ⟨settings, loaded⟩
    by_contra invalid
    rw [load_of_issues_ne_nil sources invalid] at loaded
    cases loaded
  · exact load_of_issues_eq_nil sources

/-- The level is given as an argument, and no other setting is. -/
def GivenTo (given : Text) (supply : Supply) : Prop :=
  supply.arguments = [(Field.level.name, .text given)]

section

variable {given : Text} {supply : Supply} (givenTo : GivenTo given supply)
include givenTo

theorem winning_given : winning supply.sources .level = some (.text given) :=
  winning_argument _ _ _
    (Supply.argument?_eq_some [] [] Field.level.name _ givenTo (by decide) (by simp))

theorem exists_load_given_iff :
    (∃ settings, supply.load = .ok settings) ↔ (∃ level, SpellsLevel level given) ∧
      ∀ field : Field, field ≠ .level → field.issue? (winning supply.sources field) = none := by
  have own := issue?_level_eq_none_iff given
  rw [← winning_given givenTo] at own
  simp only [supply.load_eq, mapError_eq_ok_iff, exists_load_iff, ← own]
  constructor
  · intro valid
    exact ⟨valid .level, fun field _ => valid field⟩
  · rintro ⟨level, others⟩ field
    by_cases isLevel : field = .level
    · rw [isLevel]
      exact level
    · exact others field isLevel

theorem spellsLevel_of_load {settings : Settings} (loaded : supply.load = .ok settings) :
    SpellsLevel settings.level given := by
  rw [supply.load_eq, mapError_eq_ok_iff, load_eq_ok_iff] at loaded
  have taken : Taken levelOf .info (winning supply.sources .level) settings.level := loaded .level
  rw [winning_given givenTo] at taken
  exact levelOf_text_iff.mp taken

end

/-- A level as an argument, without an environment and without a file. -/
def Supply.ofLevel (given : Text) (homes : Homes) (files : Files) : Supply where
  arguments := [(Field.level.name, .text given)]
  environment := []
  homes := homes
  files := files
  file := none
  lines := []
  noOptions := by
    have isSetting : Field.level.name ∉ Arguments.reserved := by decide
    simpa using isSetting
  fileLines := .unasked

theorem exists_load_ofLevel_iff (given : Text) (homes : Homes) (files : Files) :
    (∃ settings, (Supply.ofLevel given homes files).load = .ok settings) ↔
      ∃ level, SpellsLevel level given := by
  have others : ∀ field : Field, field ≠ .level →
      field.issue? (winning (Supply.ofLevel given homes files).sources field) = none := by
    intro field other
    cases field with
    | level => exact absurd rfl other
    | json => rfl
    | encoding => rfl
    | limit => rfl
  have givenTo : GivenTo given (Supply.ofLevel given homes files) := rfl
  rw [exists_load_given_iff givenTo, and_iff_left others]

end DocScan.Settings

namespace DocScan.Command

open Log Settings

/-! ## The gate -/

theorem gate_eq_ok_iff (given : Text) (passed : Option Text) :
    gate (some given) = .ok passed ↔
      (∃ level, SpellsLevel level given) ∧ some (Text.trim given) = passed := by
  simp only [← ofSetting?_eq_some_iff, gate]
  cases Level.ofSetting? given <;> simp

theorem gate_of_stopped {given : Text} (stopped : ¬ ∃ level, SpellsLevel level given) :
    gate (some given) = .error { complaint := .badLevel } := by
  cases found : Level.ofSetting? given with
  | none => rw [gate, found]
  | some level => exact absurd ⟨level, ofSetting?_eq_some_iff.mp found⟩ stopped

/-! ## The log -/

theorem trim_ne_nil_of_spells {given : Text} {level : Level} (spells : SpellsLevel level given) :
    Text.trim given ≠ [] := by
  intro blank
  have found := ofSetting?_of_spellsLevel spells
  rw [Level.ofSetting?, blank] at found
  cases found

/-- What has passed the gate is a name that the log knows, and it is not empty. -/
theorem asks_of_spells (settings : Settings) {given : Text} {level : Level}
    (spells : SpellsLevel level given) : Asks settings (some (Text.trim given)) level :=
  .named _ _ (trim_ne_nil_of_spells spells)
    (Level.ofAnyName?_of_ofName? (ofSetting?_of_spellsLevel spells))

/-! ## Runs -/

/-- The words ask for a command under a level. -/
def Requests (words : List Text) (given : Text) : Prop :=
  ∃ name rest, invocation words = .ok (.command (some given) name rest)

def levelOption : Text := "--log-level".toList

theorem requests_of_parse {words rest : List Text} {given : Text} {name : Name}
    (parsed : parse frontSwitches false words =
      .ok { found := [.level given], arguments := name.text :: rest }) : Requests words given := by
  refine ⟨name, rest, ?_⟩
  rw [invocation, parsed]
  simp [invocationOf, Name.ofText?_text, FrontOption.level?]

/-- The text may be a word of its own, or stand behind an equals sign. It may look like anything. -/
theorem requests_of_words (given : Text) (name : Name) (rest : List Text) :
    Requests (levelOption :: given :: name.text :: rest) given ∧
      Requests ((levelOption ++ '=' :: given) :: name.text :: rest) given := by
  constructor
  · have waits : readWord frontSwitches levelOption =
        .ok ([], some { name := levelOption, build := .level }) := rfl
    have option : isOption levelOption = true ∧ levelOption ≠ longMark := by decide
    have behind := parse_named name rest
    apply requests_of_parse
    rw [parse] at behind ⊢
    rw [parseAfter]
    simp only [if_neg option.2, option.1, if_true, waits]
    rw [parseAfter, behind]
    rfl
  · have spelled : levelOption = '-' :: '-' :: "log-level".toList := rfl
    have stands : StandsFor frontSwitches (levelOption ++ '=' :: given) (.level given) :=
      ⟨by simp [isOption, spelled], by simp [spelled, longMark], rfl⟩
    apply requests_of_parse
    rw [parse_option stands, parse_named]
    rfl

section

variable (spell : Nat → Text) (state : State) (supply : Input.Supply) {words : List Text}
  {given : Text} (requests : Requests words given)
include requests

theorem root_run_of_spells {settings : Settings} {build : Nat}
    (loaded : (state.cache.get state.toSurroundings).1 = .ok (settings, build)) {level : Level}
    (spells : SpellsLevel level given) :
    (run spell state supply words).2.root = Root.ofLevel settings level diagnostics := by
  obtain ⟨name, rest, asked⟩ := requests
  have passes := (gate_eq_ok_iff given _).mpr ⟨⟨level, spells⟩, rfl⟩
  have setUp := setup_of_asks loaded (asks_of_spells settings spells) state.root diagnostics
  obtain ⟨cache, ran⟩ := run_of_setup spell state supply asked passes setUp
  rw [ran]
  rfl

theorem run_of_stopped (stopped : ¬ ∃ level, SpellsLevel level given) :
    run spell state supply words =
      ({ ending := .failed (.usage { complaint := .badLevel }) }, state) := by
  obtain ⟨name, rest, asked⟩ := requests
  simp only [run, asked, gate_of_stopped stopped]

end

/-- A text passes the gate exactly when settings take it, unless something else is wrong with them.
What has passed sets up the log, and the level that the settings get is that of the root and of its
handler. What is stopped is a usage fault, and nothing has changed. -/
theorem level_gates_agree (spell : Nat → Text) (given : Text) :
    (∀ homes files, (∃ settings, (Supply.ofLevel given homes files).load = .ok settings) ↔
      ∃ passed, gate (some given) = .ok passed) ∧
    (∀ supply : Settings.Supply, GivenTo given supply →
      ((∃ settings, supply.load = .ok settings) ↔ (∃ passed, gate (some given) = .ok passed) ∧
        ∀ field : Settings.Field, field ≠ .level →
          field.issue? (winning supply.sources field) = none)) ∧
    (∀ passed, gate (some given) = .ok passed → ∃ level : Level,
      Text.upper (Text.trim given) = level.name ∧
      (∀ supply : Settings.Supply, GivenTo given supply →
        ∀ settings, supply.load = .ok settings → settings.level = level) ∧
      ∀ (state : State) (settings : Settings) (build : Nat),
        (state.cache.get state.toSurroundings).1 = .ok (settings, build) →
        ∃ root,
          (state.root.setup state.cache state.toSurroundings passed diagnostics).1 = (none, root) ∧
          root.Installed settings level ∧
          ∀ supply words, Requests words given → (run spell state supply words).2.root = root) ∧
    ((¬ ∃ passed, gate (some given) = .ok passed) → ∀ (state : State) supply words,
      Requests words given →
        run spell state supply words =
            ({ ending := .failed (.usage { complaint := .badLevel }) }, state) ∧
          (run spell state supply words).1.ending.exitCode = 2) ∧
    ∀ (name : Name) rest, Requests (levelOption :: given :: name.text :: rest) given ∧
      Requests ((levelOption ++ '=' :: given) :: name.text :: rest) given := by
  have passes : (∃ passed, gate (some given) = .ok passed) ↔ ∃ level, SpellsLevel level given := by
    simp [gate_eq_ok_iff]
  rw [passes]
  refine ⟨?alone, ?amid, ?accepted, ?rejected, ?words⟩
  case alone => exact exists_load_ofLevel_iff given
  case amid =>
    intro supply givenTo
    exact exists_load_given_iff givenTo
  case accepted =>
    intro passed accepted
    obtain ⟨⟨level, spells⟩, rfl⟩ := (gate_eq_ok_iff given passed).mp accepted
    have found := ofSetting?_of_spellsLevel spells
    refine ⟨level, ?name, ?settings, ?log⟩
    case name => exact upper_trim_of_spellsLevel spells
    case settings =>
      intro supply givenTo settings loaded
      have also := ofSetting?_of_spellsLevel (spellsLevel_of_load givenTo loaded)
      exact Option.some.inj (also.symm.trans found)
    case log =>
      intro state settings build loaded
      have setUp := setup_of_asks loaded (asks_of_spells settings spells) state.root diagnostics
      exact ⟨_, setUp, Root.installed_ofLevel settings level diagnostics,
        fun supply words requests => root_run_of_spells spell state supply requests loaded spells⟩
  case rejected =>
    intro stopped state supply words requests
    have ended := run_of_stopped spell state supply requests stopped
    refine ⟨ended, ?_⟩
    rw [ended]
    rfl
  case words => exact requests_of_words given

/-- A letter without a point, whose capital is an ordinary one, between blanks of other kinds. -/
def dotless : Text := "\u2003ınfo\x1c".toList

/-- Settings that were kept from a better environment, a busy root and an id in force. -/
def busyState : State where
  environment := [("SCHEMASCAN_MAX_INPUT_BYTES".toList, ['0'])]
  cache := { kept := some ({ json := false }, 7), built := 8 }
  root := busyRoot
  tracer := underGiven.tracer

theorem level_gates_agree_dotless :
    (gate (some dotless) = .ok (some "ınfo".toList) ∧
      (∃ settings, (Supply.ofLevel dotless .standard {}).load = .ok settings) ∧
      ∃ root, (busyRoot.setup busyState.cache busyState.toSurroundings (some "ınfo".toList)
          diagnostics).1 = (none, root) ∧
        root.Installed { json := false } .info ∧
        (run Text.ofNat busyState {} [levelOption, dotless, Name.options.text]).2.root = root) ∧
    Level.ofAnyName? "WARN".toList = some .warning ∧
      run Text.ofNat busyState {} [levelOption ++ "=WARN".toList, Name.options.text] =
        ({ ending := .failed (.usage { complaint := .badLevel }) }, busyState) := by
  have passes : gate (some dotless) = .ok (some "ınfo".toList) := by decide +kernel
  obtain ⟨alone, -, accepted, -, words⟩ := level_gates_agree Text.ofNat dotless
  obtain ⟨level, named, -, log⟩ := accepted _ passes
  have isInfo : level = .info := by
    have letters : Text.upper (Text.trim dotless) = Level.info.name := by decide +kernel
    rw [letters] at named
    revert named
    cases level <;> decide
  subst isInfo
  obtain ⟨root, setUp, installed, left⟩ := log busyState { json := false } 7 rfl
  refine ⟨⟨passes, (alone _ _).mpr ⟨_, passes⟩, root, setUp, installed,
    left {} _ (words .options []).1⟩, by decide, ?_⟩
  -- The log knows this name as well, but settings do not.
  have stopped : gate (some "WARN".toList) = .error { complaint := .badLevel } := by decide +kernel
  obtain ⟨-, -, -, rejected, words⟩ := level_gates_agree Text.ofNat "WARN".toList
  refine (rejected ?_ busyState {} _ (words .options []).2).1
  rintro ⟨passed, accepted⟩
  rw [stopped] at accepted
  cases accepted

end DocScan.Command
