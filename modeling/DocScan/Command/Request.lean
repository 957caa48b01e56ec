import DocScan.Command.Usage

/-!
# Requests

The commands, their options and arguments. A command line starts with options for all commands; then
come the name of a command and its own options and arguments, in any order.
-/

namespace DocScan.Command

/-! ## Commands -/

inductive Name where
  | classify
  | describe
  | options
deriving DecidableEq, Repr

namespace Name

def all : List Name := [classify, describe, options]

def text : Name → Text
  | classify => "classify".toList
  | describe => "describe".toList
  | options => "options".toList

def ofText? (word : Text) : Option Name := all.find? fun name => name.text == word

theorem ofText?_text (name : Name) : ofText? name.text = some name := by
  cases name <;> decide

end Name

inductive OutputFormat where
  | table
  | json
deriving DecidableEq, Repr

namespace OutputFormat

def all : List OutputFormat := [table, json]

def text : OutputFormat → Text
  | table => "table".toList
  | json => "json".toList

def ofText? (word : Text) : Option OutputFormat := all.find? fun format => format.text == word

end OutputFormat

inductive Request where
  | help (name : Name)
  /-- The kind of a type. An array flag that is not given is read off the name. -/
  | classify (name : Text) (array : Option Bool) (isEnum primitiveOnly : Bool)
  | describe (path field : Text) (strict : Bool)
  | options (path : Text) (format : OutputFormat)
deriving DecidableEq, Repr

def Request.path? : Request → Option Text
  | .describe path _ _ | .options path _ => some path
  | .help _ | .classify _ _ _ _ => none

/-! ## Before the command -/

inductive FrontOption where
  | level (name : Text)
  | help
deriving DecidableEq, Repr

def helpName : Text := "--help".toList

def frontSwitches : List (Switch FrontOption) :=
  [{ name := "--log-level".toList, meaning := .valued .level },
   { name := helpName, meaning := .plain .help }]

def FrontOption.level? : FrontOption → Option Text
  | .level name => some name
  | .help => none

/-- What a command line asks for: help, or a command with its words and possibly a log level. -/
inductive Invocation where
  | help
  | command (level : Option Text) (name : Name) (words : List Text)
deriving DecidableEq, Repr

def unknownCommand (word : Text) (complaint : Complaint) : UsageFault :=
  { complaint, suggestions := Text.closest word (Name.all.map Name.text) }

/-- The invocation that the words behind the front options make. A word that names no command may be
an option behind two hyphens; then it is read as one. -/
def invocationOf (level : Option Text) : List Text → Except UsageFault Invocation
  | [] => .error { complaint := .missingCommand }
  | word :: rest =>
    match Name.ofText? word with
    | some name => .ok (.command level name rest)
    | none =>
      match parse frontSwitches false (word :: rest) with
      | .error misuse => .error (unknownCommand word (.misuse misuse))
      | .ok parsed =>
        if .help ∈ parsed.found then .ok .help
        else .error (unknownCommand word (.unknownCommand word))

/-- The invocation that a command line makes. Of several levels the last one counts. -/
def invocation (words : List Text) : Except UsageFault Invocation :=
  match parse frontSwitches false words with
  | .error misuse => .error { complaint := .misuse misuse }
  | .ok parsed =>
    if .help ∈ parsed.found then .ok .help
    else invocationOf (parsed.found.filterMap FrontOption.level?).getLast? parsed.arguments

/-! ## Classifying -/

inductive ClassifyOption where
  | array (flag : Bool)
  | enumeration
  | primitiveOnly
  | help
deriving DecidableEq, Repr

def classifySwitches : List (Switch ClassifyOption) :=
  [{ name := "--array".toList, meaning := .plain (.array true) },
   { name := "--no-array".toList, meaning := .plain (.array false) },
   { name := "--enum".toList, meaning := .plain .enumeration },
   { name := "--primitive-only".toList, meaning := .plain .primitiveOnly },
   { name := helpName, meaning := .plain .help }]

def ClassifyOption.array? : ClassifyOption → Option Bool
  | .array flag => some flag
  | _ => none

def classifyRequest (parsed : Parsed ClassifyOption) : Except Complaint Request :=
  if .help ∈ parsed.found then .ok (.help .classify)
  else match parsed.arguments with
    | [] => .error (.missingArgument "name".toList)
    | [name] =>
      .ok (.classify name (parsed.found.filterMap ClassifyOption.array?).getLast?
        (decide (.enumeration ∈ parsed.found)) (decide (.primitiveOnly ∈ parsed.found)))
    | _ :: extra => .error (.extraArguments extra)

/-! ## Describing -/

inductive DescribeOption where
  | strict
  | help
deriving DecidableEq, Repr

def describeSwitches : List (Switch DescribeOption) :=
  [{ name := "--strict".toList, meaning := .plain .strict },
   { name := helpName, meaning := .plain .help }]

def pathName : Text := "path".toList

def describeRequest (parsed : Parsed DescribeOption) : Except Complaint Request :=
  if .help ∈ parsed.found then .ok (.help .describe)
  else match parsed.arguments with
    | [] => .error (.missingArgument pathName)
    | [_] => .error (.missingArgument "field".toList)
    | [path, field] => .ok (.describe path field (decide (.strict ∈ parsed.found)))
    | _ :: _ :: extra => .error (.extraArguments extra)

/-! ## Listing options -/

inductive ListOption where
  | format (given : Text)
  | help
deriving DecidableEq, Repr

def listSwitches : List (Switch ListOption) :=
  [{ name := "--format".toList, meaning := .valued .format },
   { name := "-f".toList, meaning := .valued .format },
   { name := helpName, meaning := .plain .help }]

def ListOption.format? : ListOption → Option Text
  | .format given => some given
  | .help => none

/-- The output format that some options give; of several the last one counts. -/
def formatAmong (found : List ListOption) : Except Complaint OutputFormat :=
  match (found.filterMap ListOption.format?).getLast? with
  | none => .ok .table
  | some given =>
    match OutputFormat.ofText? given with
    | some format => .ok format
    | none => .error (.badFormat given (OutputFormat.all.map OutputFormat.text))

/-- The request to list options that some options and arguments make. A bad output format comes
before anything that is wrong with the arguments. -/
def listRequest (parsed : Parsed ListOption) : Except Complaint Request :=
  if .help ∈ parsed.found then .ok (.help .options)
  else match formatAmong parsed.found with
    | .error complaint => .error complaint
    | .ok format =>
      match parsed.arguments with
      | [] => .error (.missingArgument pathName)
      | [path] => .ok (.options path format)
      | _ :: extra => .error (.extraArguments extra)

/-! ## All commands -/

def requestOf {α : Type} (switches : List (Switch α))
    (request : Parsed α → Except Complaint Request) (words : List Text) :
    Except Complaint Request :=
  match parse switches true words with
  | .error misuse => .error (.misuse misuse)
  | .ok parsed => request parsed

def Name.request (name : Name) (words : List Text) : Except UsageFault Request :=
  let made := match name with
    | .classify => requestOf classifySwitches classifyRequest words
    | .describe => requestOf describeSwitches describeRequest words
    | .options => requestOf listSwitches listRequest words
  made.mapError fun complaint => { complaint }

end DocScan.Command
