import DocScan.Codec.TextFile
import DocScan.Files.Home
import DocScan.Files.Tree
import DocScan.Settings.EnvFile

/-!
# The environment file of a run

At the start of a run an environment file may add to the environment. A variable can name the file;
otherwise a file of a fixed name is taken, from the working directory or from a directory above the
program. What is set already is never changed.
-/

namespace DocScan

/-- What a program finds around it: the environment, the files, the homes of the system, the
directories above the program itself, innermost first, and the environment file that was found when
the program was loaded, if there was one. -/
structure Surroundings where
  environment : Environment := []
  files : Files := {}
  homes : Homes := .standard
  above : List Path := []
  usualFile : Option Text := none
deriving DecidableEq, Repr

namespace Startup

inductive Fault where
  | unknownHome
  | barred (path : Path) (denial : Files.Denial)
  | unreadable (fault : TextFile.Fault)
  | unsettable (fault : Environment.Fault)
deriving DecidableEq, Repr

def Fault.message : Fault → Text
  | .unknownHome => "Could not determine home directory.".toList
  | .barred path denial => denial.message path
  | .unreadable fault => fault.message
  | .unsettable fault => fault.message

def homeVariable : Text := "HOME".toList

/-- The path that a text spells, with the tilde that it may start with replaced. -/
def expanded (environment : Environment) (homes : Homes) (text : Text) : Except Fault Path :=
  match homes.expand (environment.get? homeVariable) (Path.ofText text) with
  | some path => .ok path
  | none => .error .unknownHome

def file? (environment : Environment) (homes : Homes) (files : Files) (text : Text) :
    Except Fault (Option (List Text × Bytes)) := do
  let path ← expanded environment homes text
  (files.file? path).mapError (.barred path)

def content (encoding : Encoding) (octets : Bytes) : Except Fault Text :=
  (TextFile.read encoding octets).mapError .unreadable

/-! ## The file that counts -/

def variableName : Text := "SCHEMASCAN_ENV_FILE".toList

def defaultName : Text := ".env".toList

/-- The path that the variable for the environment file spells, unless it is empty. -/
def named? (around : Surroundings) : Except Fault (Option Path) :=
  let written := (around.environment.get? variableName).getD []
  if written = [] then .ok none
  else (expanded around.environment around.homes written).map some

/-- The paths without a variable: in the working directory, and in those above the program. -/
def usualPaths (above : List Path) : List Path :=
  Path.ofText defaultName :: above.map (·.child defaultName)

def candidates (around : Surroundings) : Except Fault (List Path) :=
  (named? around).map fun named => named.toList ++ usualPaths around.above

structure Found where
  path : Path
  place : List Text
  octets : Bytes
deriving DecidableEq, Repr

def firstFile? (files : Files) : List Path → Except Fault (Option Found)
  | [] => .ok none
  | path :: paths =>
    match files.file? path with
    | .error denial => .error (.barred path denial)
    | .ok (some (place, octets)) => .ok (some { path, place, octets })
    | .ok none => firstFile? files paths

def chosen (around : Surroundings) : Except Fault (Option Found) := do
  firstFile? around.files (← candidates around)

/-! ## Taking it in -/

/-- The octets to take in: those of the file that was found when the program was loaded, be it gone
by now, or else of the file that is in force. -/
def octets? (around : Surroundings) : Except Fault (Option Bytes) :=
  match around.usualFile with
  | some path => .ok (((around.files.file? (Path.ofText path)).toOption.join).map Prod.snd)
  | none => (chosen around).map (·.map Found.octets)

def extended (around : Surroundings) : Except Fault Environment := do
  match ← octets? around with
  | none => pure around.environment
  | some octets =>
    (EnvFile.extend around.environment (← content .utf8 octets)).mapError .unsettable

/-- The surroundings once the program has been loaded: the file that is in force now stays the usual
one, and it has been taken in. -/
def begun (around : Surroundings) : Except Fault Surroundings := do
  let around := { around with usualFile := (← chosen around).map fun found => found.path.text }
  return { around with environment := ← extended around }

/-! ## The environment of a process -/

def entriesOf (block : Bytes) : List Bytes :=
  (block.splitBy fun octet next => octet != 0 && next != 0).filter fun octets => octets != [0]

/-- The variable that an entry sets: its name stands in front of the first equals sign. -/
def assignment? (entry : Bytes) : Option (Text × Text) :=
  match Codec.Utf8.decode entry with
  | .error _ => none
  | .ok text =>
    match text.dropWhile (· ≠ '=') with
    | [] => none
    | _ :: value => some (text.takeWhile (· ≠ '='), value)

/-- The environment that a block of entries gives. An entry that is not UTF-8 is left out. -/
def environmentOf (block : Bytes) : Environment :=
  ((entriesOf block).filterMap assignment?).foldl (fun environment (name, value) =>
    environment.set name value) []

end Startup

end DocScan
