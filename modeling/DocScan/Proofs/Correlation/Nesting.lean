import DocScan.Correlation.Session
import Mathlib.Data.List.Basic

/-!
# Contexts inside contexts

A context keeps the id that it has to restore itself; there is no stack. That is enough as long as
enters and leaves match and no context is entered while it is active: whatever happens between an
enter and its leave, it does not touch the context, so the id from before comes back.
-/

namespace DocScan.Correlation

/-! ## The session behind some steps -/

def Session.after (session : Session) (steps : List Step) : Session :=
  steps.foldl (fun session step => (session.step step).2) session

namespace Session

@[simp] theorem after_nil (session : Session) : session.after [] = session := rfl

@[simp] theorem after_cons (session : Session) (step : Step) (steps : List Step) :
    session.after (step :: steps) = (session.step step).2.after steps := rfl

theorem after_append (session : Session) (front rest : List Step) :
    session.after (front ++ rest) = (session.after front).after rest :=
  List.foldl_append

end Session

/-! ## Matching enters and leaves -/

/-- The step neither enters nor leaves a context for good, and it touches none of the active ones.
-/
def Step.Spares (active : List Text) : Step → Prop
  | .set _ | .clear | .generate => True
  | .make name _ | .withError name => name ∉ active
  | .enter _ | .leave _ => False

/-- Steps in which enters and leaves match, inside the active contexts. A body that fails is left
like any other, so a leave stands for both ways out. -/
inductive Nested : List Text → List Step → Prop
  | done (active : List Text) : Nested active []
  | sparing {active : List Text} {step : Step} {steps : List Step} (spares : step.Spares active)
      (rest : Nested active steps) : Nested active (step :: steps)
  | within {active : List Text} {name : Text} {body steps : List Step} (idle : name ∉ active)
      (inside : Nested (name :: active) body) (rest : Nested active steps) :
      Nested active (.enter name :: (body ++ .leave name :: steps))

def Step.Changes : Step → Prop
  | .generate | .make _ _ => False
  | _ => True

def Step.Enters (name : Text) (step : Step) : Prop := step = .enter name ∨ step = .withError name

def Answer.entered? : Answer → Option Id
  | .id entered | .failed entered => some entered
  | .nothing => none

theorem Nested.matching {active : List Text} {steps : List Step} (nested : Nested active steps)
    (front rest : List Step) (name : Text) (split : steps = front ++ .leave name :: rest) :
    ∃ before body opened, front = before ++ .enter name :: body ∧
      Nested (name :: opened) body := by
  induction nested generalizing front rest with
  | done active => simp at split
  | @sparing active step steps spares _ ih =>
      cases front with
      | nil =>
          obtain ⟨rfl, -⟩ := List.cons.inj split
          exact spares.elim
      | cons first front =>
          obtain ⟨rfl, behind⟩ := List.cons.inj split
          obtain ⟨before, body, opened, rfl, nested⟩ := ih front rest behind
          exact ⟨step :: before, body, opened, rfl, nested⟩
  | @within active entered body steps _ inside _ insideIh restIh =>
      cases front with
      | nil => simp at split
      | cons first front =>
          obtain ⟨rfl, behind⟩ := List.cons.inj split
          rcases List.append_eq_append_iff.mp behind with ⟨more, rfl, later⟩ | ⟨more, rfl, later⟩
          · cases more with
            | nil =>
                -- The leave is that of this very context.
                obtain ⟨same, -⟩ := List.cons.inj later
                obtain rfl := Step.leave.inj same
                exact ⟨[], body, active, by simp, inside⟩
            | cons leave more =>
                obtain ⟨rfl, behindLeave⟩ := List.cons.inj later
                obtain ⟨before, inner, opened, rfl, nested⟩ := restIh more rest behindLeave
                exact ⟨.enter entered :: (body ++ .leave entered :: before), inner, opened,
                  by simp, nested⟩
          · cases more with
            | nil =>
                obtain ⟨same, -⟩ := List.cons.inj later
                obtain rfl := Step.leave.inj same
                exact ⟨[], front, active, rfl, by simpa using inside⟩
            | cons leave more =>
                obtain ⟨rfl, -⟩ := List.cons.inj later
                obtain ⟨before, inner, opened, rfl, nested⟩ := insideIh front more rfl
                exact ⟨.enter entered :: before, inner, opened, rfl, nested⟩

/-! ## What a step does to a context -/

namespace Session

variable {session : Session} {name : Text} {context : Context}

theorem step_enters (found : session.contexts.lookup name = some context) (step : Step)
    (enters : step.Enters name) :
    (session.step step).1.entered? = some (context.enter session.tracer).1 ∧
      (session.step step).2.contexts.lookup name = some (context.enter session.tracer).2.1 := by
  rcases enters with rfl | rfl <;>
    simp [step, enter, found, Answer.entered?, leave, Named.lookup_put_self]

theorem current_step_enter (found : session.contexts.lookup name = some context) :
    (session.step (.enter name)).2.tracer.current = some (context.enter session.tracer).1 := by
  simp [step, enter, found, Context.current_enter]

theorem lookup_step_enters_of_ne (session : Session) (step : Step) (entered : Text)
    (enters : step.Enters entered) (different : name ≠ entered) :
    (session.step step).2.contexts.lookup name = session.contexts.lookup name := by
  cases found : session.contexts.lookup entered with
  | none => rcases enters with rfl | rfl <;> simp [Session.step, enter, found]
  | some context =>
      rcases enters with rfl | rfl <;>
        simp [Session.step, enter, found, leave, Named.lookup_put_of_ne _ _ _ _ different]

theorem lookup_step_spares (step : Step) (active : List Text) (spares : step.Spares active)
    (member : name ∈ active) :
    (session.step step).2.contexts.lookup name = session.contexts.lookup name := by
  have other {spared : Text} (idle : spared ∉ active) : name ≠ spared := fun same =>
    idle (same ▸ member)
  cases step with
  | set id => rfl
  | clear => rfl
  | generate => rfl
  | make spared own => exact Named.lookup_put_of_ne _ _ _ _ (other spares)
  | enter entered => exact spares.elim
  | leave left => exact spares.elim
  | withError spared =>
      exact lookup_step_enters_of_ne session _ spared (.inr rfl) (other spares)

theorem contexts_step_leave (session : Session) (left : Text) :
    (session.step (.leave left)).2.contexts = session.contexts := by
  cases found : session.contexts.lookup left <;> simp [step, found, leave]

theorem current_step_leave (found : session.contexts.lookup name = some context) :
    (session.step (.leave name)).2.tracer.current = context.previous := by
  simp [step, found, leave, Context.leave_eq]

theorem current_step_of_not_changes (session : Session) (step : Step) (calm : ¬ step.Changes) :
    (session.step step).2.tracer.current = session.tracer.current := by
  cases step with
  | generate => rfl
  | make made own => rfl
  | _ => exact absurd trivial calm

/-! ## What a run does to a context -/

theorem lookup_after_nested {active : List Text} {steps : List Step} (nested : Nested active steps)
    (member : name ∈ active) :
    (session.after steps).contexts.lookup name = session.contexts.lookup name := by
  induction nested generalizing session with
  | done active => rfl
  | @sparing active step steps spares _ ih =>
      rw [after_cons, ih member, lookup_step_spares step active spares member]
  | @within active entered body steps idle _ _ insideIh restIh =>
      have different : name ≠ entered := fun same => idle (same ▸ member)
      rw [after_cons, after_append, after_cons, restIh member, contexts_step_leave,
        insideIh (List.mem_cons_of_mem _ member),
        lookup_step_enters_of_ne session _ entered (.inl rfl) different]

theorem current_after_within {opened : List Text} {body : List Step}
    (inside : Nested (name :: opened) body)
    (found : session.contexts.lookup name = some context) :
    (session.after (.enter name :: (body ++ [.leave name]))).tracer.current =
      session.tracer.current := by
  have entered := (step_enters found (.enter name) (.inl rfl)).2
  rw [← lookup_after_nested inside List.mem_cons_self] at entered
  rw [after_cons, after_append, after_cons, after_nil, current_step_leave entered]
  rfl

theorem current_after_of_not_changes (session : Session) (steps : List Step)
    (calm : ∀ step ∈ steps, ¬ step.Changes) :
    (session.after steps).tracer.current = session.tracer.current := by
  induction steps generalizing session with
  | nil => rfl
  | cons step steps ih =>
      rw [List.forall_mem_cons] at calm
      rw [after_cons, ih _ calm.2, current_step_of_not_changes session step calm.1]

def Owns (session : Session) (name : Text) (id : Id) : Prop :=
  ∃ context, session.contexts.lookup name = some context ∧ context.own = some id

variable {id : Id}

theorem owns_step_enters (found : session.contexts.lookup name = some context) (step : Step)
    (enters : step.Enters name) :
    (session.step step).2.Owns name (context.enter session.tracer).1 :=
  ⟨_, (step_enters found step enters).2, rfl⟩

theorem entered_of_owns (owns : session.Owns name id) (step : Step) (enters : step.Enters name) :
    (session.step step).1.entered? = some id := by
  obtain ⟨context, found, own⟩ := owns
  rw [(step_enters found step enters).1]
  simp [Context.enter, own, Tracer.set]

theorem owns_step (owns : session.Owns name id) (step : Step)
    (kept : ∀ own, step ≠ .make name own) : (session.step step).2.Owns name id := by
  have unchanged (same : (session.step step).2.contexts.lookup name =
      session.contexts.lookup name) : (session.step step).2.Owns name id := by
    unfold Owns
    rw [same]
    exact owns
  have entering (entered : Text) (enters : step.Enters entered) :
      (session.step step).2.Owns name id := by
    by_cases same : name = entered
    · subst same
      obtain ⟨context, found, own⟩ := owns
      have renewed := owns_step_enters found step enters
      rwa [show (context.enter session.tracer).1 = id by simp [Context.enter, own, Tracer.set]]
        at renewed
    · exact unchanged (lookup_step_enters_of_ne session step entered enters same)
  cases step with
  | set given => exact owns
  | clear => exact owns
  | generate => exact owns
  | make made own =>
      have different : name ≠ made := fun same => kept own (same ▸ rfl)
      exact unchanged (Named.lookup_put_of_ne _ _ _ _ different)
  | enter entered => exact entering entered (.inl rfl)
  | leave left => exact unchanged (by rw [contexts_step_leave])
  | withError entered => exact entering entered (.inr rfl)

theorem owns_after (owns : session.Owns name id) (steps : List Step)
    (kept : ∀ own, .make name own ∉ steps) : (session.after steps).Owns name id := by
  induction steps generalizing session with
  | nil => exact owns
  | cons step steps ih =>
      have keptHere (own : Option Id) : step ≠ .make name own := fun same =>
        kept own (same ▸ List.mem_cons_self)
      exact ih (owns_step owns step keptHere) fun own member =>
        kept own (List.mem_cons_of_mem _ member)

end Session

/-! ## Runs -/

theorem nested_restores (session : Session) (steps : List Step) (nested : Nested [] steps) :
    (∀ front name rest, steps = front ++ .leave name :: rest →
      ∃ before body opened, front = before ++ .enter name :: body ∧
        Nested (name :: opened) body) ∧
    (∀ before name body opened rest context,
      steps = before ++ .enter name :: (body ++ .leave name :: rest) →
      Nested (name :: opened) body → (session.after before).contexts.lookup name = some context →
      (session.after (before ++ .enter name :: (body ++ [.leave name]))).tracer.current =
        (session.after before).tracer.current) ∧
    (∀ before name rest, steps = before ++ .withError name :: rest →
      (session.after (before ++ [.withError name])).tracer.current =
        (session.after before).tracer.current) ∧
    (∀ before step rest name context, steps = before ++ step :: rest → step.Enters name →
      (session.after before).contexts.lookup name = some context →
      ∃ id, ((session.after before).step step).1.entered? = some id ∧
        (context.own = none → id = .generated (session.after before).tracer.issued) ∧
        (∀ own, context.own = some own → id = own) ∧
        (step = .enter name → ∀ quiet, quiet <+: rest → (∀ calm ∈ quiet, ¬ calm.Changes) →
          (session.after (before ++ step :: quiet)).tracer.current = some id) ∧
        (∀ middle again later, rest = middle ++ again :: later → again.Enters name →
          (∀ own, .make name own ∉ middle) →
          ((session.after (before ++ step :: middle)).step again).1.entered? = some id)) := by
  refine ⟨?matching, ?leaves, ?fails, ?enters⟩
  case matching =>
    intro front name rest split
    exact nested.matching front rest name split
  case leaves =>
    intro before name body opened rest context _ inside found
    rw [Session.after_append]
    exact Session.current_after_within inside found
  case fails =>
    intro before name rest _
    rw [Session.after_append]
    exact Session.step_withError _ name
  case enters =>
    intro before step rest name context _ enters found
    refine ⟨_, (Session.step_enters found step enters).1, ?fresh, ?own, ?quiet, ?again⟩
    case fresh =>
      intro none
      simp [Context.enter, none, Tracer.set, Tracer.generate]
    case own =>
      intro own given
      simp [Context.enter, given, Tracer.set]
    case quiet =>
      rintro rfl quiet - calm
      rw [Session.after_append, Session.after_cons,
        Session.current_after_of_not_changes _ quiet calm, Session.current_step_enter found]
    case again =>
      intro middle again later _ entersAgain kept
      rw [Session.after_append, Session.after_cons]
      exact Session.entered_of_owns
        (Session.owns_after (Session.owns_step_enters found step enters) middle kept) again
        entersAgain

/-- The empty text is in force in front of the contexts. -/
def beforeContexts : List Step :=
  [.make ['a'] none, .make ['b'] (some (.given ['i'])), .set (some (.given []))]

/-- The id is cleared, and another context entered and left, before the outer one is left. -/
def outerBody : List Step := [.clear, .enter ['b'], .set none, .leave ['b']]

theorem nested_outerBody : Nested [['a']] outerBody := by
  have inner : Nested [['b'], ['a']] [.set none] := .sparing trivial (.done _)
  exact .sparing trivial (.within (by decide) inner (.done _))

theorem nested_restores_empty :
    let moment := Session.after {} beforeContexts
    let inside := moment.after (.enter ['a'] :: (outerBody ++ [.leave ['a']]))
    moment.tracer.current = some (.given []) ∧ inside.tracer.current = some (.given []) ∧
      (moment.step (.enter ['a'])).1.entered? = some (.generated 0) ∧
      (inside.step (.enter ['a'])).1.entered? = some (.generated 0) := by
  have behind : Nested [] [.enter ['a'], .leave ['a']] :=
    .within List.not_mem_nil (.done [['a']]) (.done _)
  have nested :
      Nested [] (beforeContexts ++ .enter ['a'] :: (outerBody ++
        .leave ['a'] :: [.enter ['a'], .leave ['a']])) :=
    .sparing List.not_mem_nil (.sparing List.not_mem_nil (.sparing trivial
      (.within List.not_mem_nil nested_outerBody behind)))
  obtain ⟨-, leaves, -, enters⟩ := nested_restores {} _ nested
  have restored := leaves beforeContexts ['a'] outerBody [] _ {} rfl nested_outerBody rfl
  obtain ⟨id, entered, fresh, -, -, again⟩ :=
    enters beforeContexts (.enter ['a']) _ ['a'] {} rfl (.inl rfl) rfl
  obtain rfl : id = .generated 0 := fresh rfl
  have enteredAgain := again (outerBody ++ [.leave ['a']]) (.enter ['a']) [.leave ['a']] rfl
    (.inl rfl) (by simp [outerBody])
  rw [Session.after_append] at restored enteredAgain
  exact ⟨rfl, restored, entered, enteredAgain⟩

end DocScan.Correlation
