import DocScan.Correlation.Session
import DocScan.Log.Root

/-!
# Logging over a session

A session sets variables, sets the log up, changes the correlation id and logs records. Each set-up
that is tried brings a stream of its own, and what is written tells where it goes.
-/

namespace DocScan.Log

structure Session extends Surroundings where
  cache : Settings.Cache := {}
  root : Root := {}
  correlation : Correlation.Session := {}
  setups : Nat := 0

inductive Step where
  | setVariable (name value : Text)
  | setup (level : Option Text)
  | correlate (step : Correlation.Step)
  | log (record : Record)

inductive Answer where
  | nothing
  | root (root : Root)
  /-- The log could not be set up and keeps so many handlers. -/
  | refused (fault : SetupFault) (handlers : Nat)
  | correlation (answer : Correlation.Answer)
  | written (texts : List (Nat × Text))

namespace Session

def currentId (spell : Nat → Text) (session : Session) : Option Text :=
  session.correlation.tracer.current.map (Correlation.Id.text spell)

def setup (session : Session) (level : Option Text) : Answer × Session :=
  let result := session.root.setup session.cache session.toSurroundings level session.setups
  let session :=
    { session with cache := result.2, root := result.1.2, setups := session.setups + 1 }
  match result.1.1 with
  | none => (.root session.root, session)
  | some fault => (.refused fault session.root.handlers.length, session)

/-- One step. The settings are forgotten when a variable is set. -/
def step (spell : Nat → Text) (session : Session) : Step → Answer × Session
  | .setVariable name value =>
    (.nothing,
      { session with
        environment := session.environment.set name value, cache := session.cache.clear })
  | .setup level => session.setup level
  | .correlate step =>
    let (answer, correlation) := session.correlation.step step
    (.correlation answer, { session with correlation })
  | .log record => (.written (session.root.deliver (session.currentId spell) record), session)

def run (spell : Nat → Text) (session : Session) : List Step → List Answer × Session
  | [] => ([], session)
  | step :: steps =>
    let (answer, session) := session.step spell step
    let (answers, session) := session.run spell steps
    (answer :: answers, session)

theorem step_log (spell : Nat → Text) (session : Session) (record : Record) :
    session.step spell (.log record) =
      (.written (session.root.deliver (session.currentId spell) record), session) := rfl

end Session

end DocScan.Log
