import DocScan.Command.Request
import DocScan.Component
import DocScan.Descriptor.Unchecked
import DocScan.Explain.Document
import DocScan.Explain.Table
import DocScan.Input
import DocScan.Log.Root

/-!
# What commands do

A command answers with a report: what it puts out, the events it has to tell, and how it ends. An
input that cannot be read is reported in red and ends the command with a code; any other fault ends
it at once.
-/

namespace DocScan.Command

/-! ## Reports -/

inductive Output where
  /-- A text that shows as it is; where lines wrap softly, a long one is not broken. -/
  | verbatim (text : Text) (softWrap : Bool)
  | marked (markup : Text)
  | table (table : Explain.Table)
  | raw (text : Text)
  | help (name : Option Name)
deriving DecidableEq, Repr

inductive Fault where
  | usage (fault : UsageFault)
  | setup (fault : Log.SetupFault)
  | input (fault : Input.Fault)
deriving DecidableEq, Repr

def Fault.message : Fault → Text
  | .usage fault => fault.message
  | .setup fault => fault.message
  | .input fault => fault.message

inductive Ending where
  | exit (code : Nat)
  | failed (fault : Fault)
deriving DecidableEq, Repr

def success : Nat := 0

def failure : Nat := 1

def notFound : Nat := 2

def Ending.exitCode : Ending → UInt32
  | .exit code => code.toUInt32
  | .failed (.usage _) => 2
  | .failed _ => 1

structure Report where
  outputs : List Output := []
  events : List Log.Event := []
  ending : Ending := .exit success
deriving DecidableEq, Repr

def commandPlace (name : Name) : Log.Place :=
  { logger := "apps.cli.schemascan_cli.commands.".toList ++ name.text
    module := name.text
    function := name.text ++ "_command".toList }

/-! ## Markup -/

def styled (style inner : Text) : Text :=
  '[' :: style ++ [']'] ++ inner ++ ['[', '/'] ++ style ++ [']']

def red : Text := "red".toList

def yellow : Text := "yellow".toList

def unreadableNotice (reason : Input.Unreadable) : Text :=
  styled red ("✗ ".toList ++ Markup.escape reason.message)

def undescribedNotice (field : Text) : Text :=
  styled yellow ("No description found for ".toList ++ Markup.escape (Text.literal field))

def noOptionsNotice : Text := styled yellow "No options found".toList

def inputFailed (name : Name) : Input.Fault → Report
  | .unreadable reason =>
    { outputs := [.marked (unreadableNotice reason)]
      events := [(commandPlace name).error ("Failed to read input: ".toList ++ reason.message)]
      ending := .exit failure }
  | fault => { ending := .failed (.input fault) }

/-! ## Classifying -/

def requestedDescriptor (name : Text) (array : Option Bool) (isEnum : Bool) : Descriptor :=
  let descriptor := Descriptor.ofCanonicalName name isEnum
  match array with
  | some isArray => { descriptor with isArray }
  | none => descriptor

/-- The label of a descriptor: that of its kind, or, if only primitives count, that of its kind as a
primitive. -/
def label (descriptor : Descriptor) (primitiveOnly : Bool) : Text :=
  if primitiveOnly then ((descriptor.primitive?).map Kind.label).getD "none".toList
  else descriptor.classify.label

def classify (name : Text) (array : Option Bool) (isEnum primitiveOnly : Bool) : Report :=
  let descriptor := requestedDescriptor name array isEnum
  let label := label descriptor primitiveOnly
  let fallback := if primitiveOnly then [] else descriptor.events
  { outputs := [.verbatim label false]
    events := fallback ++
      [(commandPlace .classify).debug
        ("Classified ".toList ++ descriptor.toUnchecked.literal ++ " as ".toList ++ label)] }

/-! ## Describing -/

def undescribedEnding (strict : Bool) : Ending := .exit (if strict then notFound else success)

def describeInput (input : Input) (field : Text) (strict : Bool) : Report :=
  let finding := Component.find (some input.text) field
  let events := input.events ++ finding.events field
  match finding.description? with
  | some description => { outputs := [.verbatim description true], events }
  | none =>
    { outputs := [.marked (undescribedNotice field)], events, ending := undescribedEnding strict }

def describe (reading : Except Input.Fault Input) (field : Text) (strict : Bool) : Report :=
  match reading with
  | .ok input => describeInput input field strict
  | .error fault => inputFailed .describe fault

theorem describe_found (input : Input) (field : Text) (strict : Bool) (description : Text)
    (found : Component.description? (some input.text) field = some description) :
    (describe (.ok input) field strict).outputs = [.verbatim description true] ∧
      (describe (.ok input) field strict).ending = .exit success := by
  unfold Component.description? at found
  simp [describe, describeInput, found]

theorem describe_missing (input : Input) (field : Text) (strict : Bool)
    (missing : Component.description? (some input.text) field = none) :
    (describe (.ok input) field strict).outputs = [.marked (undescribedNotice field)] ∧
      (describe (.ok input) field strict).ending = undescribedEnding strict := by
  unfold Component.description? at missing
  simp [describe, describeInput, missing]

/-! ## Listing options -/

def listing (rows : List Explain.OptionRow) : OutputFormat → Output
  | .json => .raw (Explain.rowsJson rows)
  | .table => if rows = [] then .marked noOptionsNotice else .table (Explain.Table.render rows)

def listInput (input : Input) (format : OutputFormat) : Report :=
  let rows := Explain.rows (some input.text)
  { outputs := [listing rows format]
    events := input.events ++ Explain.events rows ++
      [(commandPlace .options).debug
        ("Rendering ".toList ++ Text.ofNat rows.length ++ " option row(s) as ".toList ++
          format.text)] }

def list (reading : Except Input.Fault Input) (format : OutputFormat) : Report :=
  match reading with
  | .ok input => listInput input format
  | .error fault => inputFailed .options fault

/-! ## All requests -/

/-- The report of a request. Only what needs an input reads one. -/
def Request.report (request : Request) (loaded : Except Settings.Arguments.Refusal Settings)
    (supply : Input.Supply) : Report :=
  match request with
  | .help name => { outputs := [.help (some name)] }
  | .classify name array isEnum primitiveOnly => Command.classify name array isEnum primitiveOnly
  | .describe path field strict =>
    Command.describe (Input.readWith loaded supply path) field strict
  | .options path format => Command.list (Input.readWith loaded supply path) format

end DocScan.Command
