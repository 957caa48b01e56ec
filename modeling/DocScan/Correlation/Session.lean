import DocScan.Correlation.Context
import DocScan.Text.Named

/-!
# Runs of correlation steps

A session holds what is in force and the contexts made so far under their names. Each step answers
and leaves a moment that can be looked at.
-/

namespace DocScan.Correlation

/-- What is in force and the named contexts in the order of their making. -/
structure Session where
  tracer : Tracer := {}
  contexts : List (Text × Context) := []
deriving DecidableEq, Repr

inductive Step where
  | set (id : Option Id)
  | clear
  | generate
  | make (name : Text) (own : Option Id)
  | enter (name : Text)
  | leave (name : Text)
  | withError (name : Text)
deriving DecidableEq, Repr

inductive Answer where
  | nothing
  | id (id : Id)
  /-- The body of a context failed after this id had been put in force. -/
  | failed (entered : Id)
deriving DecidableEq, Repr

namespace Session

def enter (session : Session) (name : Text) : Option (Id × Context × Session) :=
  (session.contexts.lookup name).map fun context =>
    let (id, context, tracer) := context.enter session.tracer
    (id, context, { tracer, contexts := Named.put name context session.contexts })

def leave (session : Session) (context : Context) : Session :=
  { session with tracer := context.leave session.tracer }

/-- One step. A name without a context does nothing. -/
def step (session : Session) : Step → Answer × Session
  | .set id =>
    let (id, tracer) := session.tracer.set id
    (.id id, { session with tracer })
  | .clear => (.nothing, { session with tracer := session.tracer.clear })
  | .generate =>
    let (id, tracer) := session.tracer.generate
    (.id id, { session with tracer })
  | .make name own =>
    (.nothing, { session with contexts := Named.put name { own } session.contexts })
  | .enter name =>
    match session.enter name with
    | some (id, _, session) => (.id id, session)
    | none => (.nothing, session)
  | .leave name =>
    match session.contexts.lookup name with
    | some context => (.nothing, session.leave context)
    | none => (.nothing, session)
  | .withError name =>
    match session.enter name with
    | some (id, context, session) => (.failed id, session.leave context)
    | none => (.nothing, session)

def run (session : Session) : List Step → List (Answer × Session)
  | [] => []
  | step :: steps =>
    let (answer, session) := session.step step
    (answer, session) :: session.run steps

theorem step_withError (session : Session) (name : Text) :
    (session.step (.withError name)).2.tracer.current = session.tracer.current := by
  cases found : session.contexts.lookup name <;> simp [step, enter, found, leave, Context.leave_eq,
    Context.enter]

end Session

end DocScan.Correlation
