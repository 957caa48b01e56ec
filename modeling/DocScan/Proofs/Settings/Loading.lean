import DocScan.Proofs.Settings.Winning

/-!
# Settings that are loaded

Only the values that win are judged, so loading gives them all, or the issues of those that are
invalid. A name that is no setting can only matter to a line that refers to it.
-/

namespace DocScan.Settings

/-! ## What settings take from the values that win -/

/-- What a setting holds: what the value that wins is read as, or the default. -/
def Taken {α : Type} (read : Json.Value → Except Fault α) (default : α) :
    Option Json.Value → α → Prop
  | none, held => held = default
  | some value, held => read value = .ok held

def faultOf {α : Type} : Except Fault α → Option Fault
  | .ok _ => none
  | .error fault => some fault

namespace Field

def Takes (settings : Settings) (value : Option Json.Value) : Field → Prop
  | .level => Taken levelOf .info value settings.level
  | .json => Taken flagOf true value settings.json
  | .encoding => Taken textOf "utf-8".toList value settings.encoding
  | .limit => Taken limitOf (10 * 1024 * 1024) value settings.limit

/-- What is wrong with a value for a setting, if anything is. -/
def fault? (value : Json.Value) : Field → Option Fault
  | .level => faultOf (levelOf value)
  | .json => faultOf (flagOf value)
  | .encoding => faultOf (textOf value)
  | .limit => faultOf (limitOf value)

/-- The issue that the value which wins for a setting gives. A default never gives one. -/
def issue? (field : Field) (value : Option Json.Value) : Option Issue :=
  (value.bind fun value => field.fault? value).map (Issue.onField field.name)

end Field

section

variable {α : Type} (sources : Sources) (field : Field) (read : Json.Value → Except Fault α)
  (default : α)

theorem judged_eq_ok_iff (held : α) :
    judged sources field read default = .ok held ↔
      Taken read default (winning sources field) held := by
  rw [judged]
  cases winning sources field with
  | none => simp [Taken, eq_comm]
  | some value => cases reading : read value <;> simp [Taken, reading, Except.mapError]

theorem ofCheck_judged :
    Issue.ofCheck (judged sources field read default) =
      (((winning sources field).bind fun value => faultOf (read value)).map
        (Issue.onField field.name)).toList := by
  rw [judged]
  cases winning sources field with
  | none => rfl
  | some value =>
      cases reading : read value <;> simp [Issue.ofCheck, faultOf, reading, Except.mapError]

theorem ofCheck_eq_nil_iff (check : Except Issue α) :
    Issue.ofCheck check = [] ↔ ∃ held, check = .ok held := by
  cases check <;> simp [Issue.ofCheck]

end

theorem issues_eq (sources : Sources) :
    issues sources =
      Field.all.filterMap fun field => field.issue? (winning sources field) := by
  rw [issues, judgedLevel, judgedJson, judgedEncoding, judgedLimit]
  simp only [ofCheck_judged, Field.all, List.filterMap_cons, List.filterMap_nil, Field.issue?,
    Field.fault?]
  cases (winning sources .level).bind fun value => faultOf (levelOf value) <;>
    cases (winning sources .json).bind fun value => faultOf (flagOf value) <;>
    cases (winning sources .encoding).bind fun value => faultOf (textOf value) <;>
    cases (winning sources .limit).bind fun value => faultOf (limitOf value) <;> rfl

theorem load_eq_ok_iff (sources : Sources) (settings : Settings) :
    load sources = .ok settings ↔
      ∀ field : Field, field.Takes settings (winning sources field) := by
  rw [load_ok_iff, judgedLevel, judgedJson, judgedEncoding, judgedLimit]
  simp only [judged_eq_ok_iff]
  constructor
  · rintro ⟨level, json, encoding, limit⟩ field
    cases field with
    | level => exact level
    | json => exact json
    | encoding => exact encoding
    | limit => exact limit
  · intro takes
    exact ⟨takes .level, takes .json, takes .encoding, takes .limit⟩

theorem load_of_issues_eq_nil (sources : Sources) (valid : issues sources = []) :
    ∃ settings, load sources = .ok settings := by
  simp only [issues, List.append_eq_nil_iff, ofCheck_eq_nil_iff] at valid
  obtain ⟨⟨⟨⟨level, levelOk⟩, json, jsonOk⟩, encoding, encodingOk⟩, limit, limitOk⟩ := valid
  exact ⟨{ level, json, encoding, limit },
    (load_ok_iff _ _).mpr ⟨levelOk, jsonOk, encodingOk, limitOk⟩⟩

theorem load_of_issues_ne_nil (sources : Sources) (invalid : issues sources ≠ []) :
    load sources = .error (issues sources) := by
  rw [load]
  split
  · rename_i level json encoding limit levelOk jsonOk encodingOk limitOk
    exact absurd (by simp [issues, levelOk, jsonOk, encodingOk, limitOk, Issue.ofCheck]) invalid
  · rfl

theorem load_congr (sources other : Sources)
    (same : ∀ field, winning other field = winning sources field) : load other = load sources := by
  have judgedSame {α : Type} (field : Field) (read : Json.Value → Except Fault α) (default : α) :
      judged other field read default = judged sources field read default := by
    rw [judged, judged, same]
  simp only [load, issues, judgedLevel, judgedJson, judgedEncoding, judgedLimit, judgedSame]

/-! ## Names that change nothing -/

/-- A name under which some setting is given as an argument. -/
def namesSetting (name : Text) : Bool := (Field.all.map Field.name).contains (Search.lowered name)

/-- Another supply has the same arguments for settings, and the same variables and lines of the
names that are heeded. -/
structure Supply.Alike (heeded : Text → Bool) (supply other : Supply) : Prop where
  arguments : other.arguments.filter (namesSetting ·.1) =
    supply.arguments.filter (namesSetting ·.1)
  environment : other.environment.filter (heeded ·.1) = supply.environment.filter (heeded ·.1)
  lines : other.lines.filter (heeded ·.name) = supply.lines.filter (heeded ·.name)

theorem find?_filter_of_imp {α : Type} (items : List α) (kept wanted : α → Bool)
    (keeps : ∀ item, wanted item = true → kept item = true) :
    (items.filter kept).find? wanted = items.find? wanted := by
  rw [List.find?_filter]
  congr 1
  funext item
  cases wants : wanted item with
  | false => simp
  | true => simp [keeps item wants]

theorem Search.last?_filter {α : Type} (search : Search) (heeded : Text → Bool)
    (named : List (Text × α)) (name : Text)
    (heeds : ∀ spelling, search.spell spelling = name → heeded spelling = true) :
    search.last? (named.filter (heeded ·.1)) name = search.last? named name := by
  rw [last?, last?, first?, first?, ← List.filter_reverse, find?_filter_of_imp]
  intro entry wanted
  exact heeds entry.1 (by simpa using wanted)

theorem argument?_filter (sources : Sources) (field : Field) :
    argument? { sources with arguments := sources.arguments.filter (namesSetting ·.1) } field =
      argument? sources field := by
  rw [argument?, argument?]
  refine congrArg (Option.map Prod.snd) (find?_filter_of_imp _ _ _ fun argument wanted => ?_)
  have named : Search.lowered argument.1 = field.name := by simpa using wanted
  cases field <;> simp [namesSetting, named, Field.all]

theorem load_eq_of_alike (heeded : Text → Bool) (supply other : Supply)
    (covers : ∀ field : Field, ∀ name, field.IsVariable name → heeded name = true)
    (closed : EnvFile.Closed heeded supply.lines) (alike : supply.Alike heeded other) :
    other.load = supply.load := by
  have heeds (field : Field) (spelling : Text)
      (spelled : Search.spell {} spelling = Search.variableName {} field.name) :
      heeded spelling = true := covers field spelling ((field.isVariable_iff spelling).mpr spelled)
  have looksUp (name : Text) (heedsName : heeded name = true) :
      other.environment.get? name = supply.environment.get? name := by
    rw [Environment.get?, ← Named.lookup_filter heeded name _ heedsName, alike.environment,
      Named.lookup_filter heeded name _ heedsName]
    rfl
  have otherClosed : EnvFile.Closed heeded other.lines := by
    intro line member heedsLine
    have kept : line ∈ other.lines.filter (heeded ·.name) := List.mem_filter.mpr ⟨member, heedsLine⟩
    rw [alike.lines] at kept
    exact closed line (List.mem_filter.mp kept).1 heedsLine
  have resolved :
      (EnvFile.resolve .file other.environment other.lines).filter (heeded ·.1) =
        (EnvFile.resolve .file supply.environment supply.lines).filter (heeded ·.1) := by
    rw [← EnvFile.resolve_filter .file other.environment other.environment heeded other.lines
        otherClosed fun _ _ => rfl,
      ← EnvFile.resolve_filter .file supply.environment other.environment heeded supply.lines
        closed looksUp, alike.lines]
  rw [Supply.load_eq, Supply.load_eq, load_congr supply.sources other.sources]
  intro field
  rw [Supply.winning_eq, Supply.winning_eq, ← argument?_filter, ← argument?_filter supply.sources,
    ← Search.last?_filter {} heeded _ _ (heeds field),
    ← Search.last?_filter {} heeded supply.environment _ (heeds field),
    ← Search.last?_filter {} heeded (EnvFile.resolve .file other.environment _) _ (heeds field),
    ← Search.last?_filter {} heeded (EnvFile.resolve .file supply.environment _) _ (heeds field),
    alike.environment, resolved]
  have arguments : argument? { other.sources with
        arguments := other.sources.arguments.filter (namesSetting ·.1) } field =
      argument? { supply.sources with
        arguments := supply.sources.arguments.filter (namesSetting ·.1) } field := by
    simp only [argument?, Supply.sources, alike.arguments]
  rw [arguments]

/-! ## Loading -/

theorem load_supply (supply : Supply) (oneSpelling : supply.OneSpelling) :
    ∃ won : Field → Option Json.Value,
      (∀ field value, supply.Wins field value ↔ value = won field) ∧
      ((∀ field : Field, field.issue? (won field) = none) → ∃ settings, supply.load = .ok settings ∧
        ∀ field : Field, field.Takes settings (won field)) ∧
      ((∃ field : Field, field.issue? (won field) ≠ none) → supply.load = .error
        (.invalid (Field.all.filterMap fun field => field.issue? (won field)))) ∧
      ∀ heeded : Text → Bool,
        (∀ field : Field, ∀ name, field.IsVariable name → heeded name = true) →
        EnvFile.Closed heeded supply.lines →
        ∀ other : Supply, supply.Alike heeded other → other.load = supply.load := by
  have all (field : Field) : field ∈ Field.all := by cases field <;> decide
  refine ⟨winning supply.sources, ?wins, ?valid, ?invalid, ?unknown⟩
  case wins =>
    intro field value
    exact Supply.wins_iff oneSpelling value
  case valid =>
    intro valid
    have noIssues : issues supply.sources = [] := by
      rw [issues_eq, List.filterMap_eq_nil_iff]
      exact fun field _ => valid field
    obtain ⟨settings, loaded⟩ := load_of_issues_eq_nil supply.sources noIssues
    refine ⟨settings, ?_, (load_eq_ok_iff _ _).mp loaded⟩
    rw [supply.load_eq, loaded]
    rfl
  case invalid =>
    rintro ⟨field, isIssue⟩
    have someIssue : issues supply.sources ≠ [] := by
      rw [issues_eq, Ne, List.filterMap_eq_nil_iff]
      exact fun none => isIssue (none field (all field))
    rw [supply.load_eq, load_of_issues_ne_nil supply.sources someIssue, issues_eq]
    rfl
  case unknown =>
    intro heeded covers closed other alike
    exact load_eq_of_alike heeded supply other covers closed alike

/-- A file system with one file, of ASCII text. -/
def oneFile (content : Text) : Files :=
  Files.write {} [['e']] (content.map fun c => UInt8.ofNat c.toNat)

def mixedContent : Text :=
  "SCHEMASCAN_LOG_LEVEL=DEBUG\nschemascan_max_input_bytes=$\x7bX\x7d\n".toList

/-- The level that wins is bad, though the file has a good one; the limit is bad as well. -/
def mixedSupply : Supply where
  arguments := [("LOG_JSON".toList, .bool false)]
  environment :=
    [("SCHEMASCAN_LOG_LEVEL".toList, "nope".toList),
     ("SCHEMASCAN_LOG_JSON".toList, "nope".toList), (['X'], ['0'])]
  homes := .standard
  files := oneFile mixedContent
  file := some ['e']
  lines := EnvFile.bindings mixedContent
  noOptions := by decide
  fileLines := .read ['e'] [['e']] (mixedContent.map fun c => UInt8.ofNat c.toNat) mixedContent
    (by decide +kernel) (by decide +kernel)

theorem oneSpelling_mixedSupply : mixedSupply.OneSpelling where
  distinct := by decide
  spellings := by
    intro field
    cases field <;> decide +kernel
  lines := by
    intro field
    cases field <;> decide +kernel

theorem load_supply_mixed :
    mixedSupply.load = .error (.invalid
      [.onField "log_level".toList (.unknownLevel Log.Level.names),
       .onField "max_input_bytes".toList .tooSmall]) := by
  obtain ⟨won, wins, -, invalid, -⟩ := load_supply mixedSupply oneSpelling_mixedSupply
  have level : won .level = some (.text "nope".toList) :=
    ((wins .level _).mp (.variable "SCHEMASCAN_LOG_LEVEL".toList "nope".toList
      (by decide) (by decide) (by decide))).symm
  have json : won .json = some (.bool false) :=
    ((wins .json _).mp (.argument [] [] "LOG_JSON".toList (.bool false) rfl (by decide)
      (by simp))).symm
  have encoding : won .encoding = none :=
    ((wins .encoding _).mp (.nowhere (by decide) (by decide +kernel))).symm
  have limit : won .limit = some (.text ['0']) := by
    have unset : mixedSupply.Unset .limit := by decide
    have bound : mixedSupply.lines = [⟨"SCHEMASCAN_LOG_LEVEL".toList, some "DEBUG".toList⟩] ++
        ⟨"schemascan_max_input_bytes".toList, some "$\x7bX\x7d".toList⟩ :: [] := by
      decide +kernel
    have line := Supply.Wins.line _ _ _ _ unset bound (by decide) (by simp)
    have read : EnvFile.interpolate (EnvFile.knownBy .file mixedSupply.environment
        (EnvFile.resolve .file mixedSupply.environment
          [⟨"SCHEMASCAN_LOG_LEVEL".toList, some "DEBUG".toList⟩])) "$\x7bX\x7d".toList =
        ['0'] := by
      decide +kernel
    rw [read] at line
    exact ((wins .limit _).mp line).symm
  have isIssue : Field.issue? .level (won .level) ≠ none := by
    rw [level]
    decide +kernel
  rw [invalid ⟨.level, isIssue⟩]
  simp only [Field.all, List.filterMap_cons, level, json, encoding, limit]
  rfl

theorem load_heeds_other_names :
    (loadWith [] [] .standard
        (oneFile "X=DEBUG\nSCHEMASCAN_LOG_LEVEL=$\x7bX\x7d\n".toList) (some ['e']) =
        .ok { level := .debug } ∧
      loadWith [] [] .standard
        (oneFile "SCHEMASCAN_LOG_LEVEL=$\x7bX\x7d\n".toList) (some ['e']) =
        .error (.invalid [.onField "log_level".toList (.unknownLevel Log.Level.names)])) ∧
    loadWith [("_env_prefix".toList, .text ['X', '_'])]
        [("SCHEMASCAN_LOG_LEVEL".toList, "DEBUG".toList)] .standard {} none =
      .ok { level := .info } ∧
    loadWith [] [] .standard (Files.write {} [['e']] [0xFF]) (some ['e']) =
      .error (.startup (.unreadable (.undecodable
        { encoding := "utf-8".toList, first := 0, last := 0, octet := 0xFF,
          reason := .invalidStart }))) := by
  refine ⟨⟨?reference, ?alone⟩, ?option, ?octets⟩
  all_goals decide +kernel

end DocScan.Settings
