import DocScan.Proofs.Log.Course
import Mathlib.Data.List.Induction

/-!
# Setting up in place

A set-up that is carried out on the root itself changes it step by step: the level is set, the old
handlers are dropped, and the new one is made and added. A step that fails undoes none of those in
front of it. Still no set-up stops half-way, because all that can fail is looked at before anything
is changed: the settings come first, the name of the level is looked up in the first change, and the
same name is looked up again when the handler gets its level.
-/

namespace DocScan.Log

/-! ## What a set-up comes to -/

def Root.undergoAll (root : Root) (setups : List Setup) : Root :=
  setups.foldl (fun root setup => (root.undergo setup).2) root

/-- The level that a set-up asks for: the requested one, whatever the case of its letters, or that
of the settings if none is requested. -/
inductive Asks (settings : Settings) : Option Text → Level → Prop
  | unnamed : Asks settings none settings.level
  | empty : Asks settings (some []) settings.level
  | named (name : Text) (level : Level) (given : name ≠ [])
      (known : Level.ofAnyName? (Text.upper name) = some level) : Asks settings (some name) level

/-- Why a set-up fails: its settings are bad, or no level has the requested name. -/
inductive Setup.Fails (setup : Setup) : SetupFault → Prop
  | settings (refusal : Settings.Arguments.Refusal) (bad : setup.loaded = .error refusal) :
      Setup.Fails setup (.settings refusal)
  | level (settings : Settings) (name : Text) (good : setup.loaded = .ok settings)
      (requested : setup.requested = some name) (given : name ≠ [])
      (unknown : Level.ofAnyName? (Text.upper name) = none) :
      Setup.Fails setup (.unknownLevel (Text.upper name))

/-- The root has one handler. It shares the level of the root, writes JSON exactly when the settings
say so, and adds the correlation id once. -/
structure Root.Installed (root : Root) (settings : Settings) (level : Level) : Prop where
  level : root.level = level.number
  handler : ∃ handler, root.handlers = [handler] ∧ handler.level = root.level ∧
    (handler.format = .json ↔ settings.json = true) ∧ handler.filters = [.correlation]

theorem Root.installed_ofLevel (settings : Settings) (level : Level) (stream : Nat) :
    (Root.ofLevel settings level stream).Installed settings level := by
  refine ⟨rfl, _, rfl, rfl, ?_, rfl⟩
  cases json : settings.json <;> simp [Root.formatOf, json]

theorem ofAnyName?_upper_name (level : Level) :
    Level.ofAnyName? (Text.upper level.name) = some level := by
  cases level <;> decide

theorem asks_iff (settings : Settings) (requested : Option Text) (level : Level) :
    Asks settings requested level ↔
      Level.ofAnyName? (Root.levelName settings requested) = some level := by
  have usual : Level.ofAnyName? (Text.upper settings.level.name) = some level ↔
      settings.level = level := by
    rw [ofAnyName?_upper_name, Option.some.injEq]
  constructor
  · intro asks
    cases asks with
    | unnamed => exact usual.mpr rfl
    | empty => exact usual.mpr rfl
    | named name _ given known => simpa [Root.levelName, given] using known
  · intro known
    cases requested with
    | none =>
        obtain rfl := usual.mp known
        exact .unnamed
    | some name =>
        by_cases given : name = []
        · subst given
          obtain rfl := usual.mp known
          exact .empty
        · exact .named name level given (by simpa [Root.levelName, given] using known)

theorem setup_of_asks {cache : Settings.Cache} {around : Surroundings} {settings : Settings}
    {build : Nat} (loaded : (cache.get around).1 = .ok (settings, build))
    {requested : Option Text} {level : Level} (asks : Asks settings requested level) (root : Root)
    (stream : Nat) :
    (root.setup cache around requested stream).1 =
      (none, Root.ofLevel settings level stream) := by
  refine root.undergo_of_known _ ?_ ((asks_iff _ _ _).mp asks)
  rw [loaded]
  rfl

theorem Setup.fails_or_asks (setup : Setup) :
    (∃ fault, setup.Fails fault) ∨
      ∃ settings level, setup.loaded = .ok settings ∧ Asks settings setup.requested level := by
  cases loaded : setup.loaded with
  | error refusal => exact .inl ⟨_, .settings refusal loaded⟩
  | ok settings =>
      cases requested : setup.requested with
      | none => exact .inr ⟨settings, _, rfl, .unnamed⟩
      | some name =>
          by_cases given : name = []
          · subst given
            exact .inr ⟨settings, _, rfl, .empty⟩
          · cases known : Level.ofAnyName? (Text.upper name) with
            | some level => exact .inr ⟨settings, level, rfl, .named name level given known⟩
            | none => exact .inl ⟨_, .level settings name loaded requested given known⟩

/-! ## One set-up -/

namespace Root

variable (root : Root) (setup : Setup)

theorem undergo_of_fails {fault : SetupFault} (fails : setup.Fails fault) :
    root.undergo setup = (some fault, root) := by
  cases fails with
  | settings refusal bad => exact undergo_of_error root setup bad
  | level settings name good requested given unknown =>
      have named : levelName settings setup.requested = Text.upper name := by
        simp [levelName, requested, given]
      rw [undergo_of_unknown root setup good (named ▸ unknown), named]

theorem undergo_of_asks {settings : Settings} {level : Level} (good : setup.loaded = .ok settings)
    (asks : Asks settings setup.requested level) :
    root.undergo setup = (none, ofLevel settings level setup.stream) :=
  undergo_of_known root setup good ((asks_iff _ _ _).mp asks)

theorem undergo_cases :
    (∃ fault, setup.Fails fault ∧ root.undergo setup = (some fault, root)) ∨
      ∃ settings level, setup.loaded = .ok settings ∧ Asks settings setup.requested level ∧
        root.undergo setup = (none, ofLevel settings level setup.stream) := by
  rcases setup.fails_or_asks with ⟨fault, fails⟩ | ⟨settings, level, good, asks⟩
  · exact .inl ⟨fault, fails, root.undergo_of_fails setup fails⟩
  · exact .inr ⟨settings, level, good, asks, root.undergo_of_asks setup good asks⟩

theorem fails_iff (fault : SetupFault) :
    setup.Fails fault ↔ (root.undergo setup).1 = some fault := by
  constructor
  · intro fails
    rw [undergo_of_fails root setup fails]
  · intro stopped
    rcases undergo_cases root setup with ⟨found, fails, undergone⟩ | ⟨_, _, -, -, undergone⟩
    · rw [undergone] at stopped
      obtain rfl := Option.some.inj stopped
      exact fails
    · rw [undergone] at stopped
      cases stopped

theorem installed_of_undergo (finished : (root.undergo setup).1 = none) :
    ∃ settings level, setup.loaded = .ok settings ∧ Asks settings setup.requested level ∧
      (root.undergo setup).2.Installed settings level := by
  rcases undergo_cases root setup with ⟨_, -, undergone⟩ | ⟨settings, level, good, asks, undergone⟩
  · rw [undergone] at finished
    cases finished
  · rw [undergone]
    exact ⟨settings, level, good, asks, installed_ofLevel settings level setup.stream⟩

/-! ## Sequences of set-ups -/

theorem undergoAll_concat (setups : List Setup) :
    root.undergoAll (setups ++ [setup]) = ((root.undergoAll setups).undergo setup).2 := by
  simp [undergoAll]

/-- All set-ups of a sequence fail, or one is the last that does not. -/
theorem undergoAll_cases (setups : List Setup) :
    ((∀ setup ∈ setups, ∃ fault, setup.Fails fault) ∧ root.undergoAll setups = root) ∨
      ∃ before latest after, setups = before ++ latest :: after ∧
        ((root.undergoAll before).undergo latest).1 = none ∧
        (∀ later ∈ after, ∃ fault, later.Fails fault) ∧
        root.undergoAll setups = ((root.undergoAll before).undergo latest).2 := by
  induction setups using List.reverseRecOn with
  | nil => exact .inl ⟨by simp, rfl⟩
  | append_singleton setups last ih =>
      rw [undergoAll_concat]
      rcases undergo_cases (root.undergoAll setups) last with
        ⟨fault, fails, undergone⟩ | ⟨_, _, -, -, undergone⟩
      · rw [undergone]
        rcases ih with ⟨all, kept⟩ | ⟨before, latest, after, rfl, finished, fail, left⟩
        · refine .inl ⟨?_, kept⟩
          simpa [or_imp, forall_and] using ⟨all, fault, fails⟩
        · refine .inr ⟨before, latest, after ++ [last], by simp, finished, ?_, left⟩
          simpa [or_imp, forall_and] using ⟨fail, fault, fails⟩
      · exact .inr ⟨setups, last, [], rfl, by rw [undergone], by simp, rfl⟩

end Root

/-! ## Sessions -/

namespace Session

variable (spell : Nat → Text)

def attempt (session : Session) (requested : Option Text) : Setup :=
  { loaded := (session.cache.get session.toSurroundings).1.map Prod.fst
    requested
    stream := session.setups }

def attempts (session : Session) : List Step → List Setup
  | [] => []
  | .setup requested :: steps =>
    session.attempt requested :: (session.step spell (.setup requested)).2.attempts steps
  | step :: steps => (session.step spell step).2.attempts steps

theorem step_setup (session : Session) (requested : Option Text) :
    let (fault?, changed) := session.root.undergo (session.attempt requested)
    (session.step spell (.setup requested)).2.root = changed ∧
      (session.step spell (.setup requested)).1 = match fault? with
        | none => .root changed
        | some fault => .refused fault session.root.handlers.length := by
  have result : (session.root.setup session.cache session.toSurroundings requested
      session.setups).1 = session.root.undergo (session.attempt requested) := rfl
  rcases session.root.undergo_cases (session.attempt requested) with
    ⟨_, -, undergone⟩ | ⟨_, _, -, -, undergone⟩
  all_goals
    rw [undergone] at result
    simp [undergone, step, setup, result]

theorem root_after_eq (session : Session) (steps : List Step) :
    (session.after spell steps).root = session.root.undergoAll (session.attempts spell steps) := by
  induction steps generalizing session with
  | nil => rfl
  | cons step steps ih =>
      rw [after_cons, ih]
      cases step with
      | setup requested =>
          rw [(step_setup spell session requested).1]
          rfl
      | setVariable name value => rfl
      | correlate step => rfl
      | log record => rfl

end Session

/-- Whatever the root is like, a set-up fails and leaves it as it was, or it leaves a single handler
for the level that it asks for. Behind a sequence of set-ups the root is as the last one that did
not fail has left it. A session that sets the log up does so in the same way. -/
theorem undergo_all_or_nothing (spell : Nat → Text) :
    (∀ (root : Root) (setup : Setup),
      (∀ fault, setup.Fails fault ↔ (root.undergo setup).1 = some fault) ∧
      (∀ fault, (root.undergo setup).1 = some fault → (root.undergo setup).2 = root) ∧
      ((root.undergo setup).1 = none → ∃ settings level, setup.loaded = .ok settings ∧
        Asks settings setup.requested level ∧ (root.undergo setup).2.Installed settings level)) ∧
    (∀ (root : Root) (setups : List Setup),
      ((∀ setup ∈ setups, ∃ fault, setup.Fails fault) ∧ root.undergoAll setups = root) ∨
      ∃ before latest after, setups = before ++ latest :: after ∧
        ((root.undergoAll before).undergo latest).1 = none ∧
        (∀ later ∈ after, ∃ fault, later.Fails fault) ∧
        root.undergoAll setups = ((root.undergoAll before).undergo latest).2) ∧
    ∀ session : Session,
      (∀ requested, let (fault?, changed) := session.root.undergo (session.attempt requested)
        (session.step spell (.setup requested)).2.root = changed ∧
          (session.step spell (.setup requested)).1 = match fault? with
            | none => .root changed
            | some fault => .refused fault session.root.handlers.length) ∧
      ∀ steps, (session.after spell steps).root =
        session.root.undergoAll (session.attempts spell steps) := by
  refine ⟨fun root setup => ⟨?fails, ?kept, ?installed⟩, ?sequences, fun session => ⟨?step, ?run⟩⟩
  case fails => exact root.fails_iff setup
  case kept =>
    intro fault stopped
    rw [root.undergo_of_fails setup ((root.fails_iff setup fault).mpr stopped)]
  case installed => exact root.installed_of_undergo setup
  case sequences => exact Root.undergoAll_cases
  case step => exact session.step_setup spell
  case run => exact session.root_after_eq spell

/-- A root with a level and handlers of its own, one of them without a filter. -/
def busyRoot : Root :=
  { level := 5
    handlers :=
      [{ level := 40, format := .plain, filters := [], stream := 0 },
       { level := 0, format := .json, filters := [.correlation], stream := 1 }] }

/-- The second name of a level, in small letters. -/
def warned : Setup :=
  { loaded := .ok { json := false }, requested := some "warn".toList, stream := 2 }

def loud : Setup := { loaded := .ok {}, requested := some "loud".toList, stream := 3 }

/-- A good level does not make up for bad settings. -/
def misguided : Setup :=
  { loaded := .error (.invalid [.onField "max_input_bytes".toList .tooSmall])
    requested := some "DEBUG".toList, stream := 4 }

theorem undergo_all_or_nothing_busy :
    ((busyRoot.undergo warned).1 = none ∧ ∃ settings level, warned.loaded = .ok settings ∧
      Asks settings warned.requested level ∧ (busyRoot.undergo warned).2.Installed settings level) ∧
    (loud.Fails (.unknownLevel "LOUD".toList) ∧ (busyRoot.undergo loud).2 = busyRoot) ∧
    ∃ before latest after, [loud, warned, misguided, loud] = before ++ latest :: after ∧
      ((busyRoot.undergoAll before).undergo latest).1 = none ∧
      (∀ later ∈ after, ∃ fault, later.Fails fault) ∧
      busyRoot.undergoAll [loud, warned, misguided, loud] =
        ((busyRoot.undergoAll before).undergo latest).2 := by
  obtain ⟨single, sequences, -⟩ := undergo_all_or_nothing Text.ofNat
  have finished : (busyRoot.undergo warned).1 = none := rfl
  have stopped : (busyRoot.undergo loud).1 = some (.unknownLevel "LOUD".toList) := rfl
  refine ⟨⟨finished, (single busyRoot warned).2.2 finished⟩,
    ⟨((single busyRoot loud).1 _).mpr stopped, (single busyRoot loud).2.1 _ stopped⟩, ?_⟩
  rcases sequences busyRoot [loud, warned, misguided, loud] with ⟨all, -⟩ | split
  · obtain ⟨fault, fails⟩ := all warned (by simp)
    rw [((single busyRoot warned).1 fault).mp fails] at finished
    cases finished
  · exact split

end DocScan.Log
