import DocScan.Command.Help
import DocScan.Command.Run
import DocScan.Correlation.Uuid

/-!
# The program

The outer layer: it takes the words of the command line, the environment, the files and the clock
from the system, hands them to `Command.run`, and writes what comes back.
-/

namespace DocScan.Program

open Command (Outcome State)

/-! ## Taking from the system -/

def denialOf : IO.Error → Files.Denial
  | .permissionDenied _ number wording => { number := number.toNat, wording := wording.toList }
  | _ => { number := 5, wording := "Input/output error".toList }

inductive Standing where
  | nothing
  | barred (denial : Files.Denial)
  /-- A regular file of some size, with its content, if it is to be had. -/
  | file (size : Nat) (content : Except Files.Denial Bytes)

def look (path : Path) : IO Standing := do
  if Char.ofNat 0 ∈ path.text then return .nothing
  let name := System.mkFilePath [String.ofList path.text]
  match ← name.metadata.toBaseIO with
  | .error (.permissionDenied file number wording) =>
    return .barred (denialOf (.permissionDenied file number wording))
  | .error _ => return .nothing
  | .ok found =>
    if found.type != .file then return .nothing
    let content ← (IO.FS.readBinFile name).toBaseIO
    return .file found.byteSize.toNat ((content.map ByteArray.toList).mapError denialOf)

def readFile? (path : Path) : IO (Option Bytes) := do
  match ← look path with
  | .file _ (.ok octets) => return some octets
  | _ => return none

def gather (files : Files) (path : Path) : IO Files := do
  match ← look path with
  | .file _ (.ok octets) => return files.provide path octets
  | .barred denial => return files.bar path denial
  | _ => return files

partial def readRest (stream : IO.FS.Stream) (octets : ByteArray) : IO ByteArray := do
  let more ← stream.read 65536
  if more.isEmpty then return octets else readRest stream (octets ++ more)

def readEnvironment : IO Environment := do
  let .ok block ← (IO.FS.readBinFile (System.mkFilePath ["/proc/self/environ"])).toBaseIO
    | return []
  return Startup.environmentOf block.toList

def readHomes : IO Homes := do
  match ← readFile? (Path.ofText "/etc/passwd".toList) with
  | none => return .standard
  | some octets =>
    return { own := { root := ['/'] }, named := Homes.ofTable (Encoding.decodeLatin1 octets) }

/-- The point in time at which the system looks at the process. -/
def now : IO Binary64 := do
  let .ok found ← (System.mkFilePath ["/proc/self"]).metadata.toBaseIO | return Binary64.zero false
  let billion := 1000000000
  return Binary64.ofRatio false (found.modified.sec.toNat * billion + found.modified.nsec.toNat)
    billion

def readAbove : IO (List Path) := do
  return (Path.ofText (← IO.appPath).toString.toList).parents

/-- The file at a path, if there is one. A file that cannot be read still has a size. -/
def fileSupply (path : Path) : IO Input.Supply := do
  match ← look path with
  | .nothing => return {}
  | .barred denial => return { files := ({} : Files).bar path denial }
  | .file _ (.ok octets) => return { files := ({} : Files).provide path octets }
  | .file size (.error denial) =>
    let files := ({} : Files).provide path (List.replicate size 0)
    match files.file? path with
    | .ok (some (place, _)) => return { files, denials := [(place, denial)] }
    | _ => return { files }

def readSupply (words : List Text) : IO Input.Supply := do
  match Command.wantedPath words with
  | none => return {}
  | some path =>
    if path = Input.standardPath then
      return { standardInput := (← readRest (← IO.getStdin) .empty).toList }
    else
      fileSupply (Path.ofText path)

/-! ## Giving back -/

def write (outcome : Outcome) (state : State) (spell : Nat → Text) : IO Unit := do
  let created ← now
  let output ← IO.getStdout
  let diagnostics ← IO.getStderr
  for entry in outcome.log do
    for (_, text) in entry.written state.root spell created 1 do
      diagnostics.putStr (String.ofList text)
  for entry in outcome.outputs do
    output.putStr (String.ofList entry.shown)
  match outcome.ending with
  | .failed fault => diagnostics.putStrLn (String.ofList ("Error: ".toList ++ fault.message))
  | .exit _ => pure ()

def readSurroundings : IO Surroundings := do
  let around : Surroundings :=
    { environment := ← readEnvironment, homes := ← readHomes, above := ← readAbove }
  match Startup.candidates around with
  | .error _ => return around
  | .ok paths => return { around with files := ← paths.foldlM gather {} }

/-- The program with its words: the environment file is taken in first, then the command runs. -/
def run (words : List Text) : IO UInt32 := do
  match Startup.begun (← readSurroundings) with
  | .error fault =>
    (← IO.getStderr).putStrLn (String.ofList ("Error: ".toList ++ fault.message))
    return 1
  | .ok around =>
    let supply ← readSupply words
    let id := Uuid.text (← IO.getRandomBytes 16).toList
    let spell := fun _ => id
    let (outcome, state) := Command.run spell { toSurroundings := around } supply words
    write outcome state spell
    return outcome.ending.exitCode

end DocScan.Program

def main (arguments : List String) : IO UInt32 :=
  DocScan.Program.run (arguments.map String.toList)
