import DocScan.Settings.Basic
import DocScan.Settings.Startup
import DocScan.Text.Blank

/-!
# Secrets

A directory of secrets holds one file for each setting that it gives; the file has the name of the
variable of the setting, and the blanks around its text do not count. Of several directories the
last one that has the file counts. A directory that does not exist gives nothing.
-/

namespace DocScan.Settings.Secrets

inductive Fault where
  | lost (fault : Startup.Fault)
  | notDirectory
  | unreadable (field : Field)
deriving DecidableEq, Repr

def standing? (files : Files) (path : Path) : Except Fault (Option (List Text × Files.Entry)) :=
  match files.find path with
  | .ok found => .ok (some found)
  | .error .absent => .ok none
  | .error (.denied denial) => .error (.lost (.barred path denial))

def directory (found : List Text × Files.Entry) : Except Fault (List Text) :=
  match found.2 with
  | .directory => .ok found.1
  | .file _ => .error .notDirectory

def octets? (search : Search) (files : Files) (name : Text) (place : List Text) : Option Bytes :=
  match search.first? (files.children place) name with
  | some (.file octets) => some octets
  | _ => none

/-- The secret for a setting in some directories, the last of which counts. -/
def secret? (search : Search) (files : Files) (places : List (List Text)) (field : Field) :
    Except Fault (Option (Text × Text)) :=
  match places.reverse.findSome? (octets? search files (search.variableName field.name)) with
  | none => .ok none
  | some octets =>
    match TextFile.read .utf8 octets with
    | .ok text => .ok (some (field.name, Text.trim text))
    | .error _ => .error (.unreadable field)

def gather (search : Search) (files : Files) (paths : List Path) :
    Except Fault (List (Text × Text)) := do
  let found ← paths.mapM (standing? files)
  let places ← (found.filterMap id).mapM directory
  let secrets ← Field.all.mapM (secret? search files places)
  return secrets.filterMap id

end DocScan.Settings.Secrets
