import DocScan.Log.Level
import DocScan.Settings.Search
import DocScan.Settings.Spelling

/-!
# Settings

Four settings, each with a default: the log level, whether log lines are JSON, the encoding of input
and its greatest size. A setting is looked for among the arguments, in the environment, in an
environment file and among secrets; the first of these that has it wins, and only its value is
judged.
-/

namespace DocScan

structure Settings where
  level : Log.Level := .info
  json : Bool := true
  encoding : Text := "utf-8".toList
  limit : Int := 10485760
deriving DecidableEq, Repr

namespace Settings

/-! ## Where settings come from -/

inductive Field where
  | level
  | json
  | encoding
  | limit
deriving DecidableEq, Repr

def Field.name : Field → Text
  | .level => "log_level".toList
  | .json => "log_json".toList
  | .encoding => "input_encoding".toList
  | .limit => "max_input_bytes".toList

def Field.all : List Field := [.level, .json, .encoding, .limit]

/-- The sources of settings: arguments, the environment, the names bound by a file, secrets under
the names of settings, and how to look for a setting in them. -/
structure Sources where
  arguments : Json.Members := []
  environment : Environment := []
  file : List (Text × Option Text) := []
  secrets : List (Text × Text) := []
  search : Search := {}

/-- The argument for a setting: the first one of that name. Capitals never count in the names of
arguments. -/
def argument? (sources : Sources) (field : Field) : Option Json.Value :=
  let named (entry : Text × Json.Value) : Bool := Search.lowered entry.1 == field.name
  (List.find? named sources.arguments).map Prod.snd

def winning (sources : Sources) (field : Field) : Option Json.Value :=
  (argument? sources field).or <|
    (sources.search.inEnvironment? sources.environment field.name).or <|
      (sources.search.inFile? sources.file field.name).or <|
        (sources.secrets.lookup field.name).map .text

theorem winning_argument (sources : Sources) (field : Field) (value : Json.Value)
    (given : argument? sources field = some value) : winning sources field = some value := by
  simp [winning, given]

/-! ## Judging values -/

def levelOf (value : Json.Value) : Except Fault Log.Level := do
  let text ← textOf value
  match Log.Level.ofSetting? text with
  | some level => pure level
  | none => throw (.unknownLevel Log.Level.names)

def limitOf (value : Json.Value) : Except Fault Int := do
  let limit ← integerOf value
  if limit < 1 then throw .tooSmall else pure limit

def judged {α : Type} (sources : Sources) (field : Field) (read : Json.Value → Except Fault α)
    (default : α) : Except Issue α :=
  match winning sources field with
  | none => .ok default
  | some value => (read value).mapError (Issue.onField field.name)

def judgedLevel (sources : Sources) : Except Issue Log.Level :=
  judged sources .level levelOf ({} : Settings).level

def judgedJson (sources : Sources) : Except Issue Bool :=
  judged sources .json flagOf ({} : Settings).json

def judgedEncoding (sources : Sources) : Except Issue Text :=
  judged sources .encoding textOf ({} : Settings).encoding

def judgedLimit (sources : Sources) : Except Issue Int :=
  judged sources .limit limitOf ({} : Settings).limit

def issues (sources : Sources) : List Issue :=
  Issue.ofCheck (judgedLevel sources) ++ Issue.ofCheck (judgedJson sources) ++
    Issue.ofCheck (judgedEncoding sources) ++ Issue.ofCheck (judgedLimit sources)

/-- The settings that some sources give. Every bad setting is reported. -/
def load (sources : Sources) : Except (List Issue) Settings :=
  match judgedLevel sources, judgedJson sources, judgedEncoding sources, judgedLimit sources with
  | .ok level, .ok json, .ok encoding, .ok limit => .ok { level, json, encoding, limit }
  | _, _, _, _ => .error (issues sources)

theorem load_ok_iff (sources : Sources) (settings : Settings) :
    load sources = .ok settings ↔
      judgedLevel sources = .ok settings.level ∧ judgedJson sources = .ok settings.json ∧
        judgedEncoding sources = .ok settings.encoding ∧
        judgedLimit sources = .ok settings.limit := by
  unfold load
  constructor
  · intro loaded
    split at loaded
    · obtain rfl := Except.ok.inj loaded
      simp_all
    · simp at loaded
  · rintro ⟨level, json, encoding, limit⟩
    simp [level, json, encoding, limit]

end Settings

end DocScan
