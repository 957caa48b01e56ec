import DocScan.Proofs.Settings.Bindings
import DocScan.Settings.Arguments

/-!
# Which value a setting takes

Each setting is resolved by itself: an argument wins over the environment, the environment over the
last line of the environment file that names the setting, and that over the default.
-/

namespace DocScan.Settings

/-! ## What settings are loaded from -/

/-- The lines of the environment file at a path. Where there is no file there are no lines. -/
inductive FileLines (environment : Environment) (homes : Homes) (files : Files) :
    Option Text → List EnvFile.Binding → Prop
  | unasked : FileLines environment homes files none []
  | absent (path : Text) (missing : Startup.file? environment homes files path = .ok none) :
      FileLines environment homes files (some path) []
  | read (path : Text) (place : List Text) (octets : Bytes) (content : Text)
      (found : Startup.file? environment homes files path = .ok (some (place, octets)))
      (text : TextFile.read .utf8 octets = .ok content) :
      FileLines environment homes files (some path) (EnvFile.bindings content)

/-- Arguments that give settings, an environment, and an environment file with its lines. -/
structure Supply where
  arguments : Json.Members
  environment : Environment
  homes : Homes
  files : Files
  file : Option Text
  lines : List EnvFile.Binding
  noOptions : ∀ argument ∈ arguments, argument.1 ∉ Arguments.reserved
  fileLines : FileLines environment homes files file lines

namespace Supply

def load (supply : Supply) : Except Arguments.Refusal Settings :=
  loadWith supply.arguments supply.environment supply.homes supply.files supply.file

def sources (supply : Supply) : Sources where
  arguments := supply.arguments
  environment := supply.environment
  file := EnvFile.resolve .file supply.environment supply.lines

theorem find?_option (supply : Supply) (name : Text) (option : name ∈ Arguments.reserved) :
    Json.Members.find? supply.arguments name = none := by
  refine List.lookup_eq_none_iff.mpr fun argument member => ?_
  have different : name ≠ argument.1 := fun same =>
    supply.noOptions argument member (same ▸ option)
  simpa using different

theorem said?_option (supply : Supply) (name : String) (option : name.toList ∈ Arguments.reserved) :
    Arguments.said? supply.arguments name = none := by
  rw [Arguments.said?, supply.find?_option name.toList option]

theorem bound_eq (supply : Supply) (path : Text) (asked : supply.file = some path) :
    Arguments.bound supply.arguments supply.environment supply.homes supply.files path =
      .ok (EnvFile.resolve .file supply.environment supply.lines) := by
  have fileLines := supply.fileLines
  have usual : Arguments.encoding supply.arguments = .ok .utf8 := by
    rw [Arguments.encoding, supply.said?_option "_env_file_encoding" (by decide)]
  rw [asked] at fileLines
  generalize supply.lines = lines at fileLines ⊢
  cases fileLines with
  | absent _ missing =>
      rw [Arguments.bound, missing]
      rfl
  | read _ place octets content found text =>
      have readable : Startup.content .utf8 octets = .ok content := by
        rw [Startup.content, text]
        rfl
      rw [Arguments.bound, found, usual]
      simp only [Except.mapError, bind, Except.bind, pure, Except.pure, readable]
      rfl

theorem steering_eq (supply : Supply) : Arguments.steering supply.arguments = .ok {} := by
  simp [Arguments.steering, Arguments.steering.search, Arguments.flag, Arguments.text?,
    supply.said?_option "_env_prefix" (by decide),
    supply.said?_option "_case_sensitive" (by decide),
    supply.said?_option "_env_ignore_empty" (by decide),
    supply.said?_option "_env_parse_none_str" (by decide)]

theorem secrets_eq (supply : Supply) (search : Search) :
    Arguments.secrets supply.arguments search supply.environment supply.homes supply.files =
      .ok [] := by
  rw [Arguments.secrets, Arguments.listed, supply.said?_option "_secrets_dir" (by decide)]
  rfl

theorem load_eq (supply : Supply) :
    supply.load = (Settings.load supply.sources).mapError .invalid := by
  have once := supply.find?_option "_env_file".toList (by decide)
  cases asked : supply.file with
  | none =>
      have noLines : supply.lines = [] := by
        have fileLines := supply.fileLines
        rw [asked] at fileLines
        generalize supply.lines = lines at fileLines ⊢
        cases fileLines
        rfl
      rw [load, loadWith, asked, once, supply.steering_eq]
      simp only [bind, Except.bind, supply.secrets_eq, sources, noLines]
      rfl
  | some path =>
      rw [load, loadWith, asked, once, supply.steering_eq]
      simp only [supply.bound_eq path asked, bind, Except.bind, supply.secrets_eq, sources]
      rfl

end Supply

/-! ## The value that wins -/

namespace Field

/-- The argument gives the setting. Capitals do not count. -/
def IsArgument (field : Field) (name : Text) : Prop := Search.lowered name = field.name

/-- The variable gives the setting. Capitals do not count. -/
def IsVariable (field : Field) (name : Text) : Prop :=
  Search.lowered name = "schemascan_".toList ++ field.name

instance (field : Field) (name : Text) : Decidable (field.IsArgument name) :=
  inferInstanceAs (Decidable (_ = _))

instance (field : Field) (name : Text) : Decidable (field.IsVariable name) :=
  inferInstanceAs (Decidable (_ = _))

theorem variableName_eq (field : Field) :
    Search.variableName {} field.name = "schemascan_".toList ++ field.name := by
  cases field <;> rfl

theorem isVariable_iff (field : Field) (name : Text) :
    field.IsVariable name ↔ Search.spell {} name = Search.variableName {} field.name := by
  rw [variableName_eq]
  rfl

end Field

namespace Supply

def Unasked (supply : Supply) (field : Field) : Prop :=
  ∀ argument ∈ supply.arguments, ¬ field.IsArgument argument.1

def Unset (supply : Supply) (field : Field) : Prop :=
  supply.Unasked field ∧ ∀ entry ∈ supply.environment, ¬ field.IsVariable entry.1

instance (supply : Supply) (field : Field) : Decidable (supply.Unasked field) :=
  inferInstanceAs (Decidable (∀ argument ∈ supply.arguments, _))

instance (supply : Supply) (field : Field) : Decidable (supply.Unset field) :=
  inferInstanceAs (Decidable (_ ∧ ∀ entry ∈ supply.environment, _))

/-- The value that wins for a setting. Without one the setting takes its default. -/
inductive Wins (supply : Supply) (field : Field) : Option Json.Value → Prop
  | argument (before after : Json.Members) (name : Text) (value : Json.Value)
      (given : supply.arguments = before ++ (name, value) :: after)
      (named : field.IsArgument name) (first : ∀ other ∈ before, ¬ field.IsArgument other.1) :
      Wins supply field (some value)
  | variable (name value : Text) (unasked : supply.Unasked field)
      (set : (name, value) ∈ supply.environment) (named : field.IsVariable name) :
      Wins supply field (some (.text value))
  | line (before after : List EnvFile.Binding) (name written : Text) (unset : supply.Unset field)
      (bound : supply.lines = before ++ { name, value := some written } :: after)
      (named : field.IsVariable name) (last : ∀ later ∈ after, ¬ field.IsVariable later.name) :
      Wins supply field (some (.text (EnvFile.interpolate (EnvFile.knownBy .file supply.environment
        (EnvFile.resolve .file supply.environment before)) written)))
  | bareLine (before after : List EnvFile.Binding) (name : Text) (unset : supply.Unset field)
      (bound : supply.lines = before ++ { name, value := none } :: after)
      (named : field.IsVariable name) (last : ∀ later ∈ after, ¬ field.IsVariable later.name) :
      Wins supply field none
  | nowhere (unset : supply.Unset field)
      (unbound : ∀ line ∈ supply.lines, ¬ field.IsVariable line.name) :
      Wins supply field none

/-- Each variable of a setting has one spelling in the environment, and one in the file. -/
structure OneSpelling (supply : Supply) : Prop where
  distinct : (supply.environment.map Prod.fst).Nodup
  spellings : ∀ field : Field, ∀ entry ∈ supply.environment, ∀ other ∈ supply.environment,
    field.IsVariable entry.1 → field.IsVariable other.1 → entry.1 = other.1
  lines : ∀ field : Field, ∀ line ∈ supply.lines, ∀ other ∈ supply.lines,
    field.IsVariable line.name → field.IsVariable other.name → line.name = other.name

variable {supply : Supply} {field : Field}

theorem argument?_eq_some (before after : Json.Members) (name : Text) (value : Json.Value)
    (given : supply.arguments = before ++ (name, value) :: after)
    (named : field.IsArgument name) (first : ∀ other ∈ before, ¬ field.IsArgument other.1) :
    argument? supply.sources field = some value := by
  have found : List.find? (fun entry => Search.lowered entry.1 == field.name) supply.arguments =
      some (name, value) := by
    rw [List.find?_eq_some_iff_append]
    refine ⟨by simpa [Field.IsArgument] using named, before, after, given, fun other member => ?_⟩
    simpa [Field.IsArgument] using first other member
  rw [argument?, sources]
  exact congrArg (Option.map Prod.snd) found

theorem argument?_eq_none_iff : argument? supply.sources field = none ↔ supply.Unasked field := by
  simp [argument?, sources, Unasked, Field.IsArgument]

end Supply

namespace Search

theorem last?_eq_some {α : Type} (search : Search) (named : List (Text × α)) (name : Text)
    (entry : Text × α) (member : entry ∈ named) (spelled : search.spell entry.1 = name)
    (only : ∀ other ∈ named, search.spell other.1 = name → other = entry) :
    search.last? named name = some entry.2 := by
  cases found : named.reverse.find? fun other => search.spell other.1 == name with
  | none =>
      rw [List.find?_eq_none] at found
      exact absurd (by simpa using spelled) (found entry (List.mem_reverse.mpr member))
  | some other =>
      have isOnly := only other (List.mem_reverse.mp (List.mem_of_find?_eq_some found))
        (by simpa using List.find?_some found)
      rw [last?, first?, found, isOnly]
      rfl

theorem exists_of_last?_eq_some {α : Type} (search : Search) (named : List (Text × α))
    (name : Text) (value : α) (found : search.last? named name = some value) :
    ∃ spelling, (spelling, value) ∈ named ∧ search.spell spelling = name := by
  obtain ⟨entry, first, rfl⟩ := Option.map_eq_some_iff.mp found
  exact ⟨entry.1, List.mem_reverse.mp (List.mem_of_find?_eq_some first),
    by simpa using List.find?_some first⟩

theorem inEnvironment?_usual (environment : Environment) (name : Text) :
    Search.inEnvironment? {} environment name =
      (Search.last? {} environment (Search.variableName {} name)).map .text := by
  have all : environment.filter (fun entry => Search.counts {} entry.2) = environment :=
    List.filter_eq_self.mpr fun entry _ => counts_of_not_skipping {} entry.2 rfl
  rw [inEnvironment?, all]
  rfl

theorem inFile?_usual (file : List (Text × Option Text)) (name : Text) :
    Search.inFile? {} file name =
      (Search.last? {} file (Search.variableName {} name)).join.map .text := by
  have all : file.filter (fun entry => entry.2.all (Search.counts {})) = file := by
    refine List.filter_eq_self.mpr fun entry _ => ?_
    cases entry.2 with
    | none => rfl
    | some text => exact counts_of_not_skipping {} text rfl
  rw [inFile?, all]
  rfl

end Search

namespace Supply

variable {supply : Supply} {field : Field}

theorem winning_eq (supply : Supply) (field : Field) :
    winning supply.sources field =
      (argument? supply.sources field).or
        (((Search.last? {} supply.environment (Search.variableName {} field.name)).map .text).or
          ((Search.last? {} (EnvFile.resolve .file supply.environment supply.lines)
            (Search.variableName {} field.name)).join.map .text)) := by
  rw [winning]
  simp only [sources, Search.inEnvironment?_usual, Search.inFile?_usual, List.lookup_nil,
    Option.map_none, Option.or_none]

theorem unset_iff : supply.Unset field ↔ supply.Unasked field ∧
    Search.last? {} supply.environment (Search.variableName {} field.name) = none := by
  rw [Unset, Search.last?_eq_none_iff, field.variableName_eq]
  rfl

theorem last?_environment (oneSpelling : supply.OneSpelling) (name value : Text)
    (set : (name, value) ∈ supply.environment) (named : field.IsVariable name) :
    Search.last? {} supply.environment (Search.variableName {} field.name) = some value := by
  refine Search.last?_eq_some {} _ _ (name, value) set ((field.isVariable_iff name).mp named) ?_
  intro other member spelled
  exact List.inj_on_of_nodup_map oneSpelling.distinct member set
    (oneSpelling.spellings field other member _ set
      ((field.isVariable_iff other.1).mpr spelled) named)

theorem exists_line_of_mem_resolve (entry : Text × Option Text)
    (member : entry ∈ EnvFile.resolve .file supply.environment supply.lines) :
    ∃ line ∈ supply.lines, line.name = entry.1 := by
  have found := (Named.mem_iff_lookup _ (EnvFile.nodup_names_resolve _ _ _) _ _).mp member
  obtain ⟨before, written, after, split, -, -⟩ :=
    (EnvFile.lookup_resolve_eq_some_iff _ _ _ _ _).mp found
  exact ⟨_, split ▸ List.mem_append_right _ List.mem_cons_self, rfl⟩

theorem last?_lines (oneSpelling : supply.OneSpelling) (before after : List EnvFile.Binding)
    (name : Text) (written : Option Text)
    (bound : supply.lines = before ++ { name, value := written } :: after)
    (named : field.IsVariable name) (last : ∀ later ∈ after, ¬ field.IsVariable later.name) :
    Search.last? {} (EnvFile.resolve .file supply.environment supply.lines)
        (Search.variableName {} field.name) =
      some (written.map (EnvFile.interpolate (EnvFile.knownBy .file supply.environment
        (EnvFile.resolve .file supply.environment before)))) := by
  have found := (EnvFile.lookup_resolve_eq_some_iff .file supply.environment supply.lines name
    _).mpr ⟨before, written, after, bound, fun later member same =>
      last later member (same ▸ named), rfl⟩
  have distinct := EnvFile.nodup_names_resolve .file supply.environment supply.lines
  rw [← Named.mem_iff_lookup _ distinct] at found
  refine Search.last?_eq_some {} _ _ (name, _) found ((field.isVariable_iff name).mp named) ?_
  intro other member spelled
  obtain ⟨line, isLine, lineNamed⟩ := exists_line_of_mem_resolve other member
  have same : other.1 = name := by
    rw [← lineNamed]
    refine oneSpelling.lines field line isLine ⟨name, written⟩ (by simp [bound]) ?_ named
    rw [lineNamed]
    exact (field.isVariable_iff other.1).mpr spelled
  exact List.inj_on_of_nodup_map distinct member found same

theorem last?_unbound (unbound : ∀ line ∈ supply.lines, ¬ field.IsVariable line.name) :
    Search.last? {} (EnvFile.resolve .file supply.environment supply.lines)
      (Search.variableName {} field.name) = none := by
  rw [Search.last?_eq_none_iff]
  intro entry member spelled
  obtain ⟨line, isLine, lineNamed⟩ := exists_line_of_mem_resolve entry member
  apply unbound line isLine
  rw [lineNamed]
  exact (field.isVariable_iff entry.1).mpr spelled

theorem exists_last_line (supply : Supply) (field : Field) :
    (∀ line ∈ supply.lines, ¬ field.IsVariable line.name) ∨
      ∃ before name written after,
        supply.lines = before ++ { name, value := written } :: after ∧
        field.IsVariable name ∧ ∀ later ∈ after, ¬ field.IsVariable later.name := by
  generalize supply.lines = lines
  induction lines with
  | nil => exact .inl (by simp)
  | cons line lines ih =>
      rcases ih with unbound | ⟨before, name, written, after, rfl, named, last⟩
      · by_cases named : field.IsVariable line.name
        · exact .inr ⟨[], line.name, line.value, lines, rfl, named, unbound⟩
        · exact .inl (List.forall_mem_cons.mpr ⟨named, unbound⟩)
      · exact .inr ⟨line :: before, name, written, after, rfl, named, last⟩

/-! ## Exactly one value wins -/

theorem winning_of_wins (oneSpelling : supply.OneSpelling) {value : Option Json.Value}
    (wins : supply.Wins field value) : winning supply.sources field = value := by
  rw [winning_eq]
  cases wins with
  | argument before after name value given named first =>
      rw [argument?_eq_some before after name value given named first, Option.some_or]
  | «variable» name value unasked set named =>
      rw [argument?_eq_none_iff.mpr unasked, last?_environment oneSpelling name value set named]
      rfl
  | line before after name written unset bound named last =>
      obtain ⟨unasked, noVariable⟩ := unset_iff.mp unset
      rw [argument?_eq_none_iff.mpr unasked, noVariable,
        last?_lines oneSpelling before after name _ bound named last]
      rfl
  | bareLine before after name unset bound named last =>
      obtain ⟨unasked, noVariable⟩ := unset_iff.mp unset
      rw [argument?_eq_none_iff.mpr unasked, noVariable,
        last?_lines oneSpelling before after name _ bound named last]
      rfl
  | nowhere unset unbound =>
      obtain ⟨unasked, noVariable⟩ := unset_iff.mp unset
      rw [argument?_eq_none_iff.mpr unasked, noVariable, last?_unbound unbound]
      rfl

theorem exists_wins (supply : Supply) (field : Field) : ∃ value, supply.Wins field value := by
  cases asked : argument? supply.sources field with
  | some value =>
      obtain ⟨⟨name, given⟩, found, rfl⟩ := Option.map_eq_some_iff.mp asked
      obtain ⟨named, before, after, split, first⟩ := List.find?_eq_some_iff_append.mp found
      exact ⟨_, .argument before after name given split (by simpa [Field.IsArgument] using named)
        fun other member => by simpa [Field.IsArgument] using first other member⟩
  | none =>
      have unasked := argument?_eq_none_iff.mp asked
      cases set : Search.last? {} supply.environment (Search.variableName {} field.name) with
      | some value =>
          obtain ⟨name, member, spelled⟩ := Search.exists_of_last?_eq_some {} _ _ _ set
          exact ⟨_, .variable name value unasked member ((field.isVariable_iff name).mpr spelled)⟩
      | none =>
          have unset := unset_iff.mpr ⟨unasked, set⟩
          rcases exists_last_line supply field with
            unbound | ⟨before, name, written, after, bound, named, last⟩
          · exact ⟨_, .nowhere unset unbound⟩
          · cases written with
            | none => exact ⟨_, .bareLine before after name unset bound named last⟩
            | some text => exact ⟨_, .line before after name text unset bound named last⟩

theorem wins_iff (oneSpelling : supply.OneSpelling) (value : Option Json.Value) :
    supply.Wins field value ↔ value = winning supply.sources field := by
  constructor
  · intro wins
    exact (winning_of_wins oneSpelling wins).symm
  · rintro rfl
    obtain ⟨value, wins⟩ := exists_wins supply field
    rwa [winning_of_wins oneSpelling wins]

end Supply

end DocScan.Settings
