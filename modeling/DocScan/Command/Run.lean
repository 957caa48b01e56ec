import DocScan.Command.Report
import DocScan.Correlation.Context

/-!
# Runs

A run takes the words of a command line: it checks the requested log level, sets up the log, puts a
fresh correlation id in force, carries out the command and restores the id that was in force before.
What the log lets through is kept with the id in force at that moment.
-/

namespace DocScan.Command

/-! ## The state of a program -/

/-- What a run finds and leaves behind: what is around it, the settings that are kept, the root of
the log, and the correlation id in force. -/
structure State extends Surroundings where
  cache : Settings.Cache := {}
  root : Log.Root := {}
  tracer : Correlation.Tracer := {}
deriving DecidableEq, Repr

structure Entry where
  event : Log.Event
  id : Option Correlation.Id
deriving DecidableEq, Repr

structure Outcome where
  outputs : List Output := []
  log : List Entry := []
  ending : Ending := .exit success
deriving DecidableEq, Repr

def diagnostics : Nat := 2

def entries (root : Log.Root) (tracer : Correlation.Tracer) (events : List Log.Event) :
    List Entry :=
  (events.filter fun event => root.admits event.level.number).map fun event =>
    { event, id := tracer.current }

def Entry.written (entry : Entry) (root : Log.Root) (spell : Nat → Text) (created : Binary64)
    (line : Int) : List (Nat × Text) :=
  root.deliver (entry.id.map (Correlation.Id.text spell))
    (Log.Record.ofEvent created line entry.event)

/-! ## Runs -/

/-- A requested level with the blanks around it trimmed, if settings accept it. -/
def gate (level : Option Text) : Except UsageFault (Option Text) :=
  match level with
  | none => .ok none
  | some name =>
    match Log.Level.ofSetting? name with
    | some _ => .ok (some (Text.trim name))
    | none => .error { complaint := .badLevel }

def startPlace : Log.Place :=
  { logger := "apps.cli.schemascan_cli.main".toList, module := "main".toList
    function := "main".toList }

def startEvent (name : Name) (id : Text) : Log.Event :=
  startPlace.debug
    ("Starting ".toList ++ name.text ++ " (correlation_id=".toList ++ id ++ [')'])

def reportOf (name : Name) (words : List Text)
    (loaded : Except Settings.Arguments.Refusal Settings) (supply : Input.Supply) : Report :=
  match name.request words with
  | .ok request => request.report loaded supply
  | .error fault => { ending := .failed (.usage fault) }

/-- A command carried out in a context of its own, the log being set up. -/
def runCommand (spell : Nat → Text) (state : State) (supply : Input.Supply) (name : Name)
    (words : List Text) : Outcome × State :=
  let loaded := (state.cache.get state.toSurroundings).1.map Prod.fst
  let (id, context, tracer) := ({} : Correlation.Context).enter state.tracer
  let report := reportOf name words loaded supply
  let events := startEvent name (id.text spell) :: report.events
  ({ outputs := report.outputs, log := entries state.root tracer events, ending := report.ending },
    { state with tracer := context.leave tracer })

/-- A command with a level that has passed the gate. Nothing happens when the log cannot be set up.
-/
def runWithLevel (spell : Nat → Text) (state : State) (supply : Input.Supply) (level : Option Text)
    (name : Name) (words : List Text) : Outcome × State :=
  let result := state.root.setup state.cache state.toSurroundings level diagnostics
  let state := { state with cache := result.2, root := result.1.2 }
  match result.1.1 with
  | none => runCommand spell state supply name words
  | some fault => ({ ending := .failed (.setup fault) }, state)

def run (spell : Nat → Text) (state : State) (supply : Input.Supply) (words : List Text) :
    Outcome × State :=
  match invocation words with
  | .error fault => ({ ending := .failed (.usage fault) }, state)
  | .ok .help => ({ outputs := [.help none] }, state)
  | .ok (.command level name words) =>
    match gate level with
    | .error fault => ({ ending := .failed (.usage fault) }, state)
    | .ok level => runWithLevel spell state supply level name words

def wantedPath (words : List Text) : Option Text :=
  match invocation words with
  | .ok (.command _ name words) =>
    match name.request words with
    | .ok request => request.path?
    | .error _ => none
  | _ => none

/-! ## What holds of every run -/

end DocScan.Command
