import DocScan.Json.Compare
import DocScan.Settings.Secrets

/-!
# Arguments

Settings may be asked for with arguments. Most arguments are settings; those of the reserved names
say how to look for settings, and where there are secrets. What they say is only looked at when it
is needed, so a fault in one may hide behind a fault in another.
-/

namespace DocScan.Settings

namespace Arguments

inductive Refusal where
  | repeatedFile
  | startup (fault : Startup.Fault)
  | unknownEncoding (name : Text)
  | notEncoding (typeName : Text)
  /-- A variable has no name, since its start is no text. -/
  | unnamed (field : Field)
  | notListing (typeName : Text)
  | notPath (typeName : Text)
  | secrets (fault : Secrets.Fault)
  | invalid (issues : List Issue)
deriving DecidableEq, Repr

def failedField (field : Field) (source : String) : Text :=
  "error getting value for field \"".toList ++ field.name ++ "\" from source \"".toList ++
    source.toList ++ ['"']

def Refusal.message : Refusal → Text
  | .repeatedFile =>
    ("packages.common.config.SchemaScanConfig() got multiple values for keyword argument " ++
      "'_env_file'").toList
  | .startup fault => fault.message
  | .unknownEncoding name => Encoding.absence name "codecs.open()".toList
  | .notEncoding typeName =>
    "open() argument 'encoding' must be str or None, not ".toList ++ typeName
  | .unnamed field => failedField field "EnvSettingsSource"
  | .notListing typeName => ['\''] ++ typeName ++ "' object is not iterable".toList
  | .notPath typeName => "expected str, bytes or os.PathLike object, not ".toList ++ typeName
  | .secrets (.lost fault) => fault.message
  | .secrets .notDirectory => "secrets_dir must reference a directory, not a file".toList
  | .secrets (.unreadable field) => failedField field "SecretsSettingsSource"
  | .invalid issues => Issue.summary issues

/-! ## Steering -/

/-- The names of arguments that are no settings, but options of the loading itself. Most of them
bear on command lines and on settings with parts, which there are none of here, and are not looked
at. -/
def reserved : List Text :=
  ["__pydantic_self__".toList, "_case_sensitive".toList,
   "_nested_model_default_partial_update".toList, "_env_prefix".toList,
   "_env_prefix_target".toList, "_env_file".toList, "_env_file_encoding".toList,
   "_env_ignore_empty".toList, "_env_nested_delimiter".toList, "_env_nested_max_split".toList,
   "_env_parse_none_str".toList, "_env_parse_enums".toList, "_cli_prog_name".toList,
   "_cli_parse_args".toList, "_cli_settings_source".toList, "_cli_parse_none_str".toList,
   "_cli_hide_none_type".toList, "_cli_avoid_json".toList, "_cli_enforce_required".toList,
   "_cli_use_class_docs_for_groups".toList, "_cli_exit_on_error".toList, "_cli_prefix".toList,
   "_cli_flag_prefix_char".toList, "_cli_implicit_flags".toList,
   "_cli_ignore_unknown_args".toList, "_cli_kebab_case".toList, "_cli_shortcuts".toList,
   "_secrets_dir".toList, "_build_sources".toList]

/-- What an argument says, unless it is absent or null. -/
def said? (arguments : Json.Members) (name : String) : Option Json.Value :=
  match arguments.find? name.toList with
  | some .null | none => none
  | some value => some value

def flag (arguments : Json.Members) (name : String) : Bool :=
  ((said? arguments name).map Json.Value.truthy).getD false

def text? (arguments : Json.Members) (name : String) : Option Text :=
  match said? arguments name with
  | some (.text text) => some text
  | _ => none

/-- How the arguments say settings are to be looked for. -/
def steering (arguments : Json.Members) : Except Refusal Search :=
  let usual : Search := {}
  match said? arguments "_env_prefix" with
  | none => .ok (search usual.start)
  | some (.text start) => .ok (search start)
  | some _ => .error (.unnamed .level)
where
  search (start : Text) : Search :=
    { start
      exact := flag arguments "_case_sensitive"
      skipEmpty := flag arguments "_env_ignore_empty"
      absent := text? arguments "_env_parse_none_str" }

/-! ## The environment file -/

/-- The encoding of the environment file. Anything that counts as false stands for the usual one. -/
def encoding (arguments : Json.Members) : Except Refusal Encoding :=
  match said? arguments "_env_file_encoding" with
  | none => .ok .utf8
  | some value =>
    if !value.truthy then .ok .utf8
    else match value with
      | .text name =>
        match Encoding.ofName? name with
        | some encoding => .ok encoding
        | none => .error (.unknownEncoding name)
      | other => .error (.notEncoding other.typeName)

/-- The names that the file at some path binds; none if there is no file. -/
def bound (arguments : Json.Members) (environment : Environment) (homes : Homes) (files : Files)
    (path : Text) : Except Refusal (List (Text × Option Text)) := do
  match ← (Startup.file? environment homes files path).mapError .startup with
  | none => return []
  | some (_, octets) =>
    let text ← (Startup.content (← encoding arguments) octets).mapError .startup
    return EnvFile.values environment text

/-! ## Secrets -/

def listed (arguments : Json.Members) : Except Refusal (List Json.Value) :=
  match said? arguments "_secrets_dir" with
  | none => .ok []
  | some (.text path) => .ok [.text path]
  | some (.array paths) => .ok paths
  | some (.object members) => .ok (members.map fun member => .text member.1)
  | some other => .error (.notListing other.typeName)

def path (environment : Environment) (homes : Homes) : Json.Value → Except Refusal Path
  | .text text => (Startup.expanded environment homes text).mapError .startup
  | other => .error (.notPath other.typeName)

def secrets (arguments : Json.Members) (search : Search) (environment : Environment)
    (homes : Homes) (files : Files) : Except Refusal (List (Text × Text)) := do
  let paths ← (← listed arguments).mapM (path environment homes)
  (Secrets.gather search files paths).mapError .secrets

end Arguments

/-! ## Loading -/

def loadWith (arguments : Json.Members) (environment : Environment) (homes : Homes) (files : Files)
    (file : Option Text) : Except Arguments.Refusal Settings := do
  if (arguments.find? "_env_file".toList).isSome then throw .repeatedFile
  let bound ← match file with
    | none => pure []
    | some path => Arguments.bound arguments environment homes files path
  let search ← Arguments.steering arguments
  let secrets ← Arguments.secrets arguments search environment homes files
  (load { arguments, environment, file := bound, secrets, search }).mapError .invalid

/-- The settings without arguments. The file that was found when the program was loaded is read as
it is now. -/
def loadFrom (around : Surroundings) : Except Arguments.Refusal Settings :=
  loadWith [] around.environment around.homes around.files around.usualFile

end DocScan.Settings
