import DocScan.Text.Basic

/-!
# Correlation ids

A correlation id ties together what is reported during one piece of work. At most one is in force. A
context puts an id in force for a while and restores the one before; a context without an id of its
own takes a fresh one when it is entered first and keeps it.
-/

namespace DocScan.Correlation

/-! ## Ids -/

/-- A correlation id: a given text, or a fresh id that differs from every other one. -/
inductive Id where
  | given (text : Text)
  | generated (serial : Nat)
deriving DecidableEq, Repr

/-- The text of an id. Fresh ids are spelled out by a function of their number. -/
def Id.text (spell : Nat → Text) : Id → Text
  | .given text => text
  | .generated serial => spell serial

/-- The id in force, if any, and the number of fresh ids so far. -/
structure Tracer where
  current : Option Id := none
  issued : Nat := 0
deriving DecidableEq, Repr

namespace Tracer

/-- A fresh id, which is not put in force. -/
def generate (tracer : Tracer) : Id × Tracer :=
  (.generated tracer.issued, { tracer with issued := tracer.issued + 1 })

def set (tracer : Tracer) (id : Option Id) : Id × Tracer :=
  match id with
  | some id => (id, { tracer with current := some id })
  | none =>
    let (id, tracer) := tracer.generate
    (id, { tracer with current := some id })

def clear (tracer : Tracer) : Tracer := { tracer with current := none }

theorem current_set (tracer : Tracer) (id : Option Id) :
    (tracer.set id).2.current = some (tracer.set id).1 := by
  cases id <;> rfl

end Tracer

/-! ## Contexts -/

/-- A context: its own id, if it has one, and the id that it has to restore. -/
structure Context where
  own : Option Id := none
  previous : Option Id := none
deriving DecidableEq, Repr

namespace Context

/-- A context entered: the id that it puts in force, the context as it is from now on, and what is
in force behind it. -/
def enter (context : Context) (tracer : Tracer) : Id × Context × Tracer :=
  let (id, entered) := tracer.set context.own
  (id, { own := some id, previous := tracer.current }, entered)

/-- A context left: the id before it is in force again. The empty text is an id like any other. -/
def leave (context : Context) (tracer : Tracer) : Tracer :=
  match context.previous with
  | none => tracer.clear
  | some id => (tracer.set (some id)).2

theorem leave_eq (context : Context) (tracer : Tracer) :
    context.leave tracer = { tracer with current := context.previous } := by
  unfold leave
  cases context.previous <;> rfl

theorem current_enter (context : Context) (tracer : Tracer) :
    (context.enter tracer).2.2.current = some (context.enter tracer).1 :=
  Tracer.current_set tracer context.own

end Context

end DocScan.Correlation
