import DocScan.Descriptor.Unchecked

/-!
# Working with descriptors

A session keeps every descriptor that was built in it, in order. A step builds one more, tries to
change one, or asks about those that are kept. A construction that fails keeps nothing.
-/

namespace DocScan.Descriptor

structure Session where
  kept : List Unchecked := []

/-- A step of a session. Descriptors are named by their place. -/
inductive Step where
  | construct (fields : Json.Members)
  | canonical (name : Json.Value) (isEnum : Option Json.Value)
  | parse (text : Text)
  | copy (source : Nat) (update : Json.Members)
  | assign (target : Nat) (field : Text)
  | delete (target : Nat) (field : Text)
  | get (target : Nat)
  | equal (left right : Nat)
  | sameFingerprint (left right : Nat)
  | distinct
  | literal (target : Nat)
  | json (target : Nat)

structure Verdict where
  descriptor : Unchecked
  kind : Kind
  primitive : Option Kind

inductive StepFault where
  | refused (refusal : Refusal)
  | unhashable (fault : Unhashable)
  | absent
deriving DecidableEq, Repr

def StepFault.message : StepFault → Text
  | .refused refusal => refusal.message
  | .unhashable fault => fault.message
  | .absent => "list index out of range".toList

inductive Answer where
  | nothing
  | verdict (verdict : Verdict)
  | descriptor (descriptor : Unchecked)
  | flag (value : Bool)
  | count (number : Nat)
  | text (content : Text)
  | fault (fault : StepFault)

/-- The verdict on a descriptor. The look-up as a primitive is always made. -/
def Unchecked.verdict (descriptor : Unchecked) : Except Unhashable Verdict := do
  let kind ← descriptor.classify
  let primitive ← descriptor.primitive?
  return { descriptor, kind, primitive }

def Answer.ofVerdict : Except Unhashable Verdict → Answer
  | .ok result => .verdict result
  | .error cause => .fault (.unhashable cause)

namespace Session

/-- A descriptor is kept first and judged then. -/
def keep (session : Session) (descriptor : Unchecked) : Session × Answer :=
  ({ kept := session.kept ++ [descriptor] }, .ofVerdict descriptor.verdict)

/-- A construction: only a descriptor that could be built is kept. -/
def build (session : Session) : Except Refusal Descriptor → Session × Answer
  | .ok descriptor => session.keep descriptor.toUnchecked
  | .error refusal => (session, .fault (.refused refusal))

def about (session : Session) (target : Nat) (answer : Unchecked → Answer) : Session × Answer :=
  (session, (session.kept[target]?.map answer).getD (.fault .absent))

def frozen (field : Text) : Answer := .fault (.refused (.invalid [Unchecked.change field]))

/-- The comparison of the fingerprints of two descriptors. The left one is taken first. -/
def compareFingerprints (left right : Unchecked) : Answer :=
  match (do return (← left.fingerprints) == (← right.fingerprints) : Except Unhashable Bool) with
  | .ok same => .flag same
  | .error cause => .fault (.unhashable cause)

/-- How many different descriptors there are. Each one needs fingerprints to be counted. -/
def countDistinct (descriptors : List Unchecked) : Answer :=
  match descriptors.mapM Unchecked.fingerprints with
  | .ok _ => .count (Unchecked.distinct descriptors).length
  | .error cause => .fault (.unhashable cause)

def step (session : Session) : Step → Session × Answer
  | .construct fields => session.build ((check fields).mapError .invalid)
  | .canonical name isEnum => session.build (ofCanonicalValue name isEnum)
  | .parse text => session.build ((ofJsonText text).mapError .invalid)
  | .copy source update =>
    match session.kept[source]? with
    | some descriptor => session.keep (descriptor.copy update)
    | none => (session, .fault .absent)
  | .assign target field =>
    session.about target fun _ => if Unchecked.isPrivate field then .nothing else frozen field
  | .delete target field => session.about target fun _ => frozen field
  | .get target => session.about target .descriptor
  | .equal left right =>
    session.about left fun left => (session.about right fun right => .flag (left.same right)).2
  | .sameFingerprint left right =>
    session.about left fun left =>
      (session.about right fun right => compareFingerprints left right).2
  | .distinct => (session, countDistinct session.kept)
  | .literal target => session.about target fun descriptor => .text descriptor.literal
  | .json target => session.about target fun descriptor => .text descriptor.jsonText

def run (session : Session) : List Step → Session × List Answer
  | [] => (session, [])
  | step :: steps =>
    let (session, answer) := session.step step
    let (session, answers) := session.run steps
    (session, answer :: answers)

theorem kept_prefix (session : Session) (step : Step) :
    session.kept <+: (session.step step).1.kept := by
  have build (result : Except Refusal Descriptor) :
      session.kept <+: (session.build result).1.kept := by
    cases result <;> simp [Session.build, keep]
  cases step with
  | construct fields => exact build _
  | canonical name isEnum => exact build _
  | parse text => exact build _
  | copy source update =>
      simp only [Session.step]
      split <;> simp [keep]
  | _ => exact List.prefix_rfl

end Session

end DocScan.Descriptor
