import DocScan.Codec.Encoding
import DocScan.Files.Tree
import DocScan.Log.Event
import DocScan.Settings.Arguments

/-!
# Input

A command reads one input, a file or standard input, of limited size and in one encoding. An input
that cannot be read for a reason that its reader can mend is unreadable and reported as such; the
other faults are those of the settings, of the codecs and of the system.
-/

namespace DocScan

structure Input where
  text : Text
  source : Text
  size : Nat
deriving DecidableEq, Repr

namespace Input

/-! ## Faults -/

inductive Unreadable where
  | notFound (path : Text)
  | tooLarge (path : Text) (size : Nat) (limit : Int)
  /-- The file is there, but its content is not to be had. -/
  | denied (path : Text) (denial : Files.Denial)
  | exceeds (source : Text) (limit : Int)
  | undecodable (source encoding : Text) (fault : Codec.Fault)
deriving DecidableEq, Repr

def Unreadable.message : Unreadable → Text
  | .notFound path => "Input file not found: ".toList ++ path
  | .tooLarge path size limit =>
    "Input file ".toList ++ path ++ " is ".toList ++ Text.ofNat size ++
      " bytes, limit is ".toList ++ Text.ofInt limit
  | .denied path denial =>
    "Cannot read ".toList ++ path ++ [':', ' '] ++ denial.message (Path.ofText path)
  | .exceeds source limit =>
    "Input from ".toList ++ source ++ " exceeds ".toList ++ Text.ofInt limit ++ " bytes".toList
  | .undecodable source encoding fault =>
    "Input from ".toList ++ source ++ " is not valid ".toList ++ encoding ++ [':', ' '] ++
      fault.message

inductive Fault where
  | unreadable (reason : Unreadable)
  | settings (refusal : Settings.Arguments.Refusal)
  | unknownEncoding (name : Text)
  | zeroInName
  /-- The codec of the encoding gives up. -/
  | brokenCodec (wording : Text)
  /-- The system does not say what stands at the path. -/
  | barred (path : Path) (denial : Files.Denial)
  /-- The limit is beyond what can be counted in one read. -/
  | uncountable
deriving DecidableEq, Repr

def Fault.message : Fault → Text
  | .unreadable reason => reason.message
  | .settings refusal => refusal.message
  | .unknownEncoding name => Encoding.absence name "codecs.decode()".toList
  | .zeroInName => "embedded null character".toList
  | .brokenCodec wording => wording
  | .barred path denial => denial.message path
  | .uncountable => "cannot fit 'int' into an index-sized integer".toList

/-! ## Fetching octets -/

/-- The files, those of them whose content the system keeps to itself, by their places, standard
input, and the codecs of the system. -/
structure Supply where
  files : Files := {}
  denials : List (List Text × Files.Denial) := []
  standardInput : Bytes := []
  codecs : Codecs := Encoding.codecs

/-- The codec of that name. A name with a zero character is not even looked up. -/
def Supply.codec? (supply : Supply) (name : Text) : Option Codec :=
  if Char.ofNat 0 ∈ name then none else supply.codecs name

def standardPath : Text := ['-']

def standardName : Text := "stdin".toList

/-- The number of octets that a single read cannot reach. -/
def readBound : Int := 9223372036854775808

/-- The octets of a file. Its size is known, and may be too large, even if its content is not to be
had. -/
def fetchFile (limit : Int) (supply : Supply) (path : Text) : Except Fault Bytes :=
  match supply.files.file? (Path.ofText path) with
  | .error denial => .error (.barred (Path.ofText path) denial)
  | .ok none => .error (.unreadable (.notFound path))
  | .ok (some (place, octets)) =>
    if limit < octets.length then .error (.unreadable (.tooLarge path octets.length limit))
    else match supply.denials.lookup place with
      | some denial => .error (.unreadable (.denied path denial))
      | none => .ok octets

/-- The first octets of standard input, one more than the limit, so that too large an input shows.
-/
def fetchStandard (limit : Int) (standardInput : Bytes) : Except Fault Bytes :=
  if readBound ≤ limit + 1 then .error .uncountable
  else .ok (standardInput.take (limit + 1).toNat)

def fetch (limit : Int) (supply : Supply) (path : Text) : Except Fault (Bytes × Text) :=
  if path = standardPath then
    (fetchStandard limit supply.standardInput).map (·, standardName)
  else (fetchFile limit supply path).map (·, (Path.ofText path).text)

/-! ## Reading -/

def codecFault (encoding source : Text) : Codec.Failure → Fault
  | .undecodable fault => .unreadable (.undecodable source encoding fault)
  | .broken wording => .brokenCodec wording

/-- The text that some octets spell in an encoding of some name, by the codec of that name, if there
is one. No octets are no text even in an encoding that is not known. -/
def spelledBy (codec? : Option Codec) (encoding source : Text) (octets : Bytes) :
    Except Fault Text :=
  match codec? with
  | some codec => (codec.decode octets).mapError (codecFault encoding source)
  | none =>
    if Char.ofNat 0 ∈ encoding then .error .zeroInName
    else if octets = [] then .ok []
    else .error (.unknownEncoding encoding)

def decodedBy (codec? : Option Codec) (settings : Settings) (octets : Bytes) (source : Text) :
    Except Fault Input :=
  if settings.limit < octets.length then .error (.unreadable (.exceeds source settings.limit))
  else (spelledBy codec? settings.encoding source octets).map fun text =>
    { text, source, size := octets.length }

def readBy (codec? : Option Codec) (settings : Settings) (supply : Supply) (path : Text) :
    Except Fault Input :=
  match fetch settings.limit supply path with
  | .ok (octets, source) => decodedBy codec? settings octets source
  | .error fault => .error fault

def read (settings : Settings) (supply : Supply) (path : Text) : Except Fault Input :=
  readBy (supply.codec? settings.encoding) settings supply path

/-- The input that a path leads to, with settings that may have failed to load. -/
def readWith (loaded : Except Settings.Arguments.Refusal Settings) (supply : Supply) (path : Text) :
    Except Fault Input :=
  match loaded with
  | .ok settings => read settings supply path
  | .error refusal => .error (.settings refusal)

def readIn (around : Surroundings) (supply : Supply) (path : Text) : Except Fault Input :=
  readWith (Settings.loadFrom around) supply path

/-! ## Reporting -/

def place : Log.Place :=
  { logger := "apps.cli.schemascan_cli.utils.input".toList, module := "input".toList
    function := "read_input".toList }

def events (input : Input) : List Log.Event :=
  [place.debug
    ("Read ".toList ++ Text.ofNat input.size ++ " bytes from ".toList ++ input.source)]

end Input

end DocScan
