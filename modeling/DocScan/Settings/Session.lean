import DocScan.Settings.Arguments

/-!
# Settings over a session

Settings are loaded from the environment and the usual environment file when they are first needed
and kept until they are cleared; what fails is not kept. The environment file is taken into the
environment once.
-/

namespace DocScan.Settings

/-! ## The cache -/

/-- Settings that are kept, with the number of the load that gave them, and how many loads
succeeded. -/
structure Cache where
  kept : Option (Settings × Nat) := none
  built : Nat := 0
deriving DecidableEq, Repr

namespace Cache

def get (cache : Cache) (around : Surroundings) :
    Except Arguments.Refusal (Settings × Nat) × Cache :=
  match cache.kept with
  | some kept => (.ok kept, cache)
  | none =>
    match loadFrom around with
    | .ok settings =>
      let kept := (settings, cache.built)
      (.ok kept, { kept := some kept, built := cache.built + 1 })
    | .error refusal => (.error refusal, cache)

def clear (cache : Cache) : Cache := { cache with kept := none }

end Cache

/-! ## Sessions -/

/-- A session: what is around it, whether the environment file has been taken in, and the settings
that are kept. -/
structure Session extends Surroundings where
  started : Bool := false
  cache : Cache := {}
deriving DecidableEq, Repr

inductive Step where
  | setVariable (name value : Text)
  | unsetVariable (name : Text)
  | askVariable (name : Text)
  | write (path : Text) (content : Bytes)
  | remove (path : Text)
  | resolve
  | start
  | get
  | clear

inductive Answer where
  | nothing
  | text (content : Option Text)
  | place (names : Option (List Text))
  | settings (settings : Settings) (build : Nat)
  | refused (refusal : Arguments.Refusal)

namespace Session

/-- The environment file taken in, unless that has been done. -/
def start (session : Session) : Except Startup.Fault Session :=
  if session.started then .ok session
  else
    match Startup.extended session.toSurroundings with
    | .ok environment => .ok { session with environment, started := true }
    | .error fault => .error fault

def resolve (session : Session) : Except Startup.Fault (Option (List Text)) := do
  return (← Startup.chosen session.toSurroundings).map Startup.Found.place

def step (session : Session) : Step → Except Startup.Fault (Answer × Session)
  | .setVariable name value =>
    match session.environment.assign name value with
    | .ok environment => .ok (.nothing, { session with environment })
    | .error fault => .error (.unsettable fault)
  | .unsetVariable name =>
    .ok (.text (session.environment.get? name),
      { session with environment := session.environment.unset name })
  | .askVariable name => .ok (.text (session.environment.get? name), session)
  | .write path content =>
    .ok (.nothing, { session with files := session.files.provide (Path.ofText path) content })
  | .remove path =>
    .ok (.nothing, { session with files := session.files.delete (Path.ofText path) })
  | .resolve => session.resolve.map fun place => (.place place, session)
  | .start => session.start.map (.nothing, ·)
  | .get =>
    let (result, cache) := session.cache.get session.toSurroundings
    match result with
    | .ok (settings, build) => .ok (.settings settings build, { session with cache })
    | .error refusal => .ok (.refused refusal, { session with cache })
  | .clear => .ok (.nothing, { session with cache := session.cache.clear })

/-- The answers to a sequence of steps and the session after them. A variable that cannot be set and
an environment file that cannot be looked for or read end the session. -/
def run (session : Session) : List Step → Except Startup.Fault (List Answer × Session)
  | [] => .ok ([], session)
  | step :: steps => do
    let (answer, session) ← session.step step
    let (answers, session) ← session.run steps
    return (answer :: answers, session)

theorem start_started (session : Session) (started : session.started = true) :
    session.start = .ok session := by
  simp [start, started]

end Session

end DocScan.Settings
