import DocScan.Codec.Fault
import DocScan.Files.Path
import DocScan.Text.Literal

/-!
# Files

The files and directories that can be reached from the working directory. Following a path goes name
by name, and every name on the way has to be a directory that may be searched.
-/

namespace DocScan

inductive Files.Entry where
  | file (content : Bytes)
  | directory
deriving DecidableEq, Repr

/-- The system refuses something: the number of the reason and its wording. -/
structure Files.Denial where
  number : Nat
  wording : Text
deriving DecidableEq, Repr

/-- The places that exist, apart from the working directory itself, and the directories that may not
be searched. A place is the list of the names that lead to it. -/
structure Files where
  entries : List (List Text × Files.Entry) := []
  closed : List (List Text × Files.Denial) := []
deriving DecidableEq, Repr

namespace Files

/-! ## Places -/

/-- What stands at a place. The working directory is always there. -/
def standing? (files : Files) (place : List Text) : Option Entry :=
  if place = [] then some .directory else files.entries.lookup place

def put (files : Files) (place : List Text) (entry : Entry) : Files :=
  { files with entries := (place, entry) :: files.entries.filter (·.1 != place) }

/-- A place made a directory, unless something stands there already, and everything on the way to
it. -/
def makeDirectory (files : Files) (place : List Text) : Files :=
  (List.range place.length).foldl (fun files above =>
    let way := place.take (above + 1)
    if (files.standing? way).isSome then files else files.put way .directory) files

/-- A file written at a place, and the directories on the way to it. -/
def write (files : Files) (place : List Text) (content : Bytes) : Files :=
  (files.makeDirectory place.dropLast).put place (.file content)

def remove (files : Files) (place : List Text) : Files :=
  { files with entries := files.entries.filter (·.1 != place) }

/-- What stands in a directory, under its name, oldest first. -/
def children (files : Files) (place : List Text) : List (Text × Entry) :=
  files.entries.reverse.filterMap fun (found, entry) =>
    if found.dropLast = place then found.getLast?.map (·, entry) else none

/-! ## Following a path -/

namespace Denial

def nameTooLong : Denial := { number := 36, wording := "File name too long".toList }

/-- The numbers of the reasons that count as if nothing stood there: there is no such file, no such
directory or no such descriptor, or a link leads back to itself. -/
def absences : List Nat := [2, 20, 9, 40]

def message (denial : Denial) (path : Path) : Text :=
  "[Errno ".toList ++ Text.ofNat denial.number ++ "] ".toList ++ denial.wording ++ [':', ' '] ++
    Text.literal path.text

end Denial

inductive Miss where
  | absent
  | denied (denial : Denial)
deriving DecidableEq, Repr

def Denial.miss (denial : Denial) : Miss :=
  if absences.contains denial.number then .absent else .denied denial

def maxName : Nat := 255

/-- The number of octets that a whole path does not reach. -/
def pathLimit : Nat := 4096

def advance (place : List Text) (name : Text) : List Text :=
  if name = Path.parentName then
    match place.getLast? with
    | none => [Path.parentName]
    | some last =>
      if last = Path.parentName then place ++ [Path.parentName]
      else if last.head? = some '/' then place
      else place.dropLast
  else place ++ [name]

def follow (files : Files) (place : List Text) : List Text → Except Miss (List Text × Entry)
  | [] =>
    match files.standing? place with
    | some entry => .ok (place, entry)
    | none => .error .absent
  | name :: names =>
    match files.standing? place with
    | some .directory =>
      match files.closed.lookup place with
      | some denial => .error denial.miss
      | none =>
        if maxName < Text.octets name then .error (.denied .nameTooLong)
        else follow files (advance place name) names
    | _ => .error .absent

def startOf (path : Path) : List Text := if path.root = [] then [] else [path.root]

/-- What a path leads to, and the place where that stands. A character that no name can have leads
nowhere. -/
def find (files : Files) (path : Path) : Except Miss (List Text × Entry) :=
  if Char.ofNat 0 ∈ path.text then .error .absent
  else if pathLimit ≤ Text.octets path.text then .error (.denied .nameTooLong)
  else files.follow (startOf path) path.names

/-- The directories that some names lead through from a place, and the place that they lead to. -/
def along (files : Files) (place : List Text) : List Text → Files × List Text
  | [] => (files, place)
  | name :: names => along (files.makeDirectory place) (advance place name) names

/-- A file put where a path leads, with the directories on the way. -/
def provide (files : Files) (path : Path) (content : Bytes) : Files :=
  let (files, place) := files.along (startOf path) path.names
  files.write place content

def bar (files : Files) (path : Path) (denial : Denial) : Files :=
  let (files, place) := files.along (startOf path) path.names.dropLast
  { files.makeDirectory place with closed := (place, denial) :: files.closed }

def delete (files : Files) (path : Path) : Files :=
  match files.find path with
  | .ok (place, .file _) => files.remove place
  | _ => files

/-- The content of the regular file that a path leads to, if it leads to one, and its place. -/
def file? (files : Files) (path : Path) : Except Denial (Option (List Text × Bytes)) :=
  match files.find path with
  | .ok (place, .file content) => .ok (some (place, content))
  | .ok (_, .directory) | .error .absent => .ok none
  | .error (.denied denial) => .error denial

end Files

end DocScan
