import DocScan.Proofs.Settings.Winning
import DocScan.Settings.Session

/-!
# Courses of sessions

A session may go on after a step that failed; what such a step has done to the environment before it
failed is left open. Settings that were loaded are kept until they are cleared, whatever the
environment, the files and the failed steps do meanwhile. What fails to load is not kept.
-/

namespace DocScan.Settings

/-! ## What does not fail -/

section

variable {α β ε ε' : Type} {first : Except ε α}

theorem bind_eq_ok_iff {next : α → Except ε β} {result : β} :
    first >>= next = .ok result ↔ ∃ value, first = .ok value ∧ next value = .ok result := by
  cases first <;> simp [bind, Except.bind]

theorem map_eq_ok_iff {convert : α → β} {result : β} :
    first.map convert = .ok result ↔ ∃ value, first = .ok value ∧ convert value = result := by
  cases first <;> simp [Except.map]

theorem mapError_eq_ok_iff {convert : ε → ε'} {value : α} :
    first.mapError convert = .ok value ↔ first = .ok value := by
  cases first with
  | error fault => constructor <;> rintro ⟨⟩
  | ok found =>
      constructor
      · exact fun same => congrArg Except.ok (Except.ok.inj same)
      · exact fun same => congrArg Except.ok (Except.ok.inj same)

end

/-! ## Courses -/

/-- The courses of a session: its steps, each with its answer, and what the session has become. A
step that fails has no answer, and may leave any environment behind. -/
inductive Course : Session → List (Step × Option Answer) → Session → Prop
  | done (session : Session) : Course session [] session
  | answered {session next last : Session} {step : Step} {answer : Answer}
      {events : List (Step × Option Answer)} (action : session.step step = .ok (answer, next))
      (rest : Course next events last) : Course session ((step, some answer) :: events) last
  | failed {session last : Session} {step : Step} {fault : Startup.Fault}
      {events : List (Step × Option Answer)} (environment : Environment)
      (action : session.step step = .error fault)
      (rest : Course { session with environment } events last) :
      Course session ((step, none) :: events) last

theorem course_append_iff (session last : Session) (front rest : List (Step × Option Answer)) :
    Course session (front ++ rest) last ↔
      ∃ moment, Course session front moment ∧ Course moment rest last := by
  induction front generalizing session with
  | nil =>
      constructor
      · intro course
        exact ⟨session, .done session, course⟩
      · rintro ⟨moment, course, later⟩
        cases course
        exact later
  | cons event front ih =>
      constructor
      · intro course
        cases course with
        | answered action course =>
            obtain ⟨moment, before, later⟩ := (ih _).mp course
            exact ⟨moment, .answered action before, later⟩
        | failed environment action course =>
            obtain ⟨moment, before, later⟩ := (ih _).mp course
            exact ⟨moment, .failed environment action before, later⟩
      · rintro ⟨moment, course, later⟩
        cases course with
        | answered action course => exact .answered action ((ih _).mpr ⟨moment, course, later⟩)
        | failed environment action course =>
            exact .failed environment action ((ih _).mpr ⟨moment, course, later⟩)

theorem course_of_run (session last : Session) (steps : List Step) (answers : List Answer)
    (ran : session.run steps = .ok (answers, last)) :
    Course session (steps.zip (answers.map some)) last := by
  induction steps generalizing session answers with
  | nil =>
      obtain ⟨rfl, rfl⟩ := Prod.mk.inj (Except.ok.inj ran)
      exact .done session
  | cons step steps ih =>
      rw [Session.run, bind_eq_ok_iff] at ran
      obtain ⟨⟨answer, next⟩, action, ran⟩ := ran
      rw [bind_eq_ok_iff] at ran
      obtain ⟨⟨others, final⟩, later, ran⟩ := ran
      obtain ⟨rfl, rfl⟩ := Prod.mk.inj (Except.ok.inj ran)
      exact .answered action (ih next others later)

/-! ## What is loaded -/

/-- The lines of the usual environment file as it is now. -/
def UsualLines (around : Surroundings) (lines : List EnvFile.Binding) : Prop :=
  FileLines around.environment around.homes around.files around.usualFile lines

/-- What the environment and some lines of a file say. -/
def sourcesOf (environment : Environment) (lines : List EnvFile.Binding) : Sources where
  environment := environment
  file := EnvFile.resolve .file environment lines

variable {around : Surroundings}

theorem loadFrom_of_lines {lines : List EnvFile.Binding} (usual : UsualLines around lines) :
    loadFrom around = (load (sourcesOf around.environment lines)).mapError .invalid :=
  Supply.load_eq
    { arguments := []
      environment := around.environment
      homes := around.homes
      files := around.files
      file := around.usualFile
      lines := lines
      noOptions := by simp
      fileLines := usual }

theorem bound_of_no_lines {path : Text}
    (unreadable : ∀ lines,
      ¬ FileLines around.environment around.homes around.files (some path) lines) :
    ∃ fault, Arguments.bound [] around.environment around.homes around.files path =
      .error (.startup fault) := by
  cases looked : Startup.file? around.environment around.homes around.files path with
  | error fault =>
      rw [Arguments.bound, looked]
      exact ⟨fault, rfl⟩
  | ok found =>
      cases found with
      | none => exact absurd (.absent path looked) (unreadable [])
      | some file =>
          cases isRead : TextFile.read .utf8 file.2 with
          | ok content =>
              exact absurd (.read path file.1 file.2 content looked isRead) (unreadable _)
          | error fault =>
              refine ⟨.unreadable fault, ?_⟩
              have bad : Startup.content .utf8 file.2 = .error (.unreadable fault) := by
                rw [Startup.content, isRead]
                rfl
              have usual : Arguments.encoding [] = .ok .utf8 := rfl
              rw [Arguments.bound, looked, usual]
              simp only [Except.mapError, bind, Except.bind, bad]

theorem loadFrom_of_no_lines (unreadable : ∀ lines, ¬ UsualLines around lines) :
    ∃ fault, loadFrom around = .error (.startup fault) := by
  unfold UsualLines at unreadable
  cases asked : around.usualFile with
  | none =>
      rw [asked] at unreadable
      exact absurd .unasked (unreadable [])
  | some path =>
      rw [asked] at unreadable
      obtain ⟨fault, failed⟩ := bound_of_no_lines unreadable
      refine ⟨fault, ?_⟩
      rw [loadFrom, loadWith, asked]
      simp only [failed, bind, Except.bind]
      rfl

/-! ## What a step does to the settings that are kept -/

section

variable {session next : Session} {step : Step} {answer : Answer}

theorem step_get_kept (kept : Settings × Nat) (keeps : session.cache.kept = some kept) :
    session.step .get = .ok (.settings kept.1 kept.2, session) := by
  simp only [Session.step, Cache.get, keeps]

theorem step_get_loads (empty : session.cache.kept = none) (settings : Settings)
    (loads : loadFrom session.toSurroundings = .ok settings) :
    session.step .get = .ok (.settings settings session.cache.built,
      { session with cache :=
        { kept := some (settings, session.cache.built), built := session.cache.built + 1 } }) := by
  simp only [Session.step, Cache.get, empty, loads]

theorem step_get_fails (empty : session.cache.kept = none) (refusal : Arguments.Refusal)
    (fails : loadFrom session.toSurroundings = .error refusal) :
    session.step .get = .ok (.refused refusal, session) := by
  simp only [Session.step, Cache.get, empty, fails]

theorem step_start (action : session.step .start = .ok (answer, next)) :
    session.start = .ok next := by
  obtain ⟨later, started, same⟩ := map_eq_ok_iff.mp action
  rw [started, (Prod.mk.inj same).2]

theorem start_cases (started : session.start = .ok next) :
    (session.started = true ∧ next = session) ∨
    (session.started = false ∧ ∃ environment,
      Startup.extended session.toSurroundings = .ok environment ∧
      next = { session with environment, started := true }) := by
  unfold Session.start at started
  split at started
  · rename_i before
    exact .inl ⟨before, (Except.ok.inj started).symm⟩
  · rename_i before
    split at started
    · rename_i environment extended
      exact .inr ⟨by simpa using before, environment, extended, (Except.ok.inj started).symm⟩
    · cases started

/-- Only three kinds of steps do more than change the environment and the files. -/
theorem step_cases (action : session.step step = .ok (answer, next)) :
    (∃ environment files, next = { session with environment, files }) ∨
    (step = .start ∧ session.start = .ok next) ∨
    (step = .get ∧
      next = { session with cache := (session.cache.get session.toSurroundings).2 }) ∨
    (step = .clear ∧ next = { session with cache := session.cache.clear }) := by
  cases step with
  | setVariable name value =>
      simp only [Session.step] at action
      split at action
      · exact .inl ⟨_, _, (Prod.mk.inj (Except.ok.inj action)).2.symm⟩
      · cases action
  | unsetVariable name => exact .inl ⟨_, _, (Prod.mk.inj (Except.ok.inj action)).2.symm⟩
  | askVariable name => exact .inl ⟨_, _, (Prod.mk.inj (Except.ok.inj action)).2.symm⟩
  | write path content => exact .inl ⟨_, _, (Prod.mk.inj (Except.ok.inj action)).2.symm⟩
  | remove path => exact .inl ⟨_, _, (Prod.mk.inj (Except.ok.inj action)).2.symm⟩
  | resolve =>
      obtain ⟨place, -, same⟩ := map_eq_ok_iff.mp action
      exact .inl ⟨_, _, (Prod.mk.inj same).2.symm⟩
  | start => exact .inr (.inl ⟨rfl, step_start action⟩)
  | get =>
      refine .inr (.inr (.inl ⟨rfl, ?_⟩))
      simp only [Session.step] at action
      split at action <;> exact (Prod.mk.inj (Except.ok.inj action)).2.symm
  | clear => exact .inr (.inr (.inr ⟨rfl, (Prod.mk.inj (Except.ok.inj action)).2.symm⟩))

theorem cache_step (action : session.step step = .ok (answer, next)) (noGet : step ≠ .get)
    (noClear : step ≠ .clear) : next.cache = session.cache := by
  rcases step_cases action with ⟨environment, files, rfl⟩ | ⟨-, started⟩ | ⟨gets, -⟩ | ⟨clears, -⟩
  · rfl
  · rcases start_cases started with ⟨-, rfl⟩ | ⟨-, environment, -, rfl⟩ <;> rfl
  · exact absurd gets noGet
  · exact absurd clears noClear

theorem kept_step (action : session.step step = .ok (answer, next)) (noClear : step ≠ .clear)
    (kept : Settings × Nat) (keeps : session.cache.kept = some kept) :
    next.cache.kept = some kept := by
  by_cases gets : step = .get
  · subst gets
    rw [step_get_kept kept keeps] at action
    rw [← (Prod.mk.inj (Except.ok.inj action)).2, keeps]
  · rw [cache_step action gets noClear, keeps]

theorem empty_step (action : session.step step = .ok (answer, next))
    (noSettings : ∀ settings build, answer ≠ .settings settings build)
    (empty : session.cache.kept = none) : next.cache.kept = none := by
  by_cases gets : step = .get
  · subst gets
    cases loaded : loadFrom session.toSurroundings with
    | ok settings =>
        rw [step_get_loads empty settings loaded] at action
        exact absurd (Prod.mk.inj (Except.ok.inj action)).1.symm (noSettings _ _)
    | error refusal =>
        rw [step_get_fails empty refusal loaded] at action
        rw [← (Prod.mk.inj (Except.ok.inj action)).2, empty]
  · by_cases clears : step = .clear
    · subst clears
      rw [← (Prod.mk.inj (Except.ok.inj action)).2]
      rfl
    · rw [cache_step action gets clears, empty]

theorem kept_of_get (settings : Settings) (build : Nat)
    (action : session.step .get = .ok (.settings settings build, next)) :
    next.cache.kept = some (settings, build) := by
  cases keeps : session.cache.kept with
  | some kept =>
      rw [step_get_kept kept keeps] at action
      obtain ⟨gives, rfl⟩ := Prod.mk.inj (Except.ok.inj action)
      obtain ⟨rfl, rfl⟩ := Answer.settings.inj gives
      exact keeps
  | none =>
      cases loaded : loadFrom session.toSurroundings with
      | ok found =>
          rw [step_get_loads keeps found loaded] at action
          obtain ⟨gives, rfl⟩ := Prod.mk.inj (Except.ok.inj action)
          obtain ⟨rfl, rfl⟩ := Answer.settings.inj gives
          rfl
      | error refusal =>
          rw [step_get_fails keeps refusal loaded] at action
          cases (Prod.mk.inj (Except.ok.inj action)).1

theorem empty_of_refused (refusal : Arguments.Refusal)
    (action : session.step .get = .ok (.refused refusal, next)) : next.cache.kept = none := by
  cases keeps : session.cache.kept with
  | some kept =>
      rw [step_get_kept kept keeps] at action
      cases (Prod.mk.inj (Except.ok.inj action)).1
  | none =>
      refine empty_step action (fun settings build => ?_) keeps
      rintro ⟨⟩

end

/-! ## What a course does to them -/

section

variable {session last : Session} {events : List (Step × Option Answer)}

theorem kept_course (course : Course session events last)
    (noClear : ∀ event ∈ events, event.1 ≠ .clear) (kept : Settings × Nat)
    (keeps : session.cache.kept = some kept) : last.cache.kept = some kept := by
  induction course with
  | done session => exact keeps
  | answered action _ ih =>
      rw [List.forall_mem_cons] at noClear
      exact ih noClear.2 (kept_step action noClear.1 kept keeps)
  | failed environment _ _ ih =>
      rw [List.forall_mem_cons] at noClear
      exact ih noClear.2 keeps

theorem empty_course (course : Course session events last)
    (noSettings : ∀ event ∈ events, ∀ settings build,
      event.2 ≠ some (.settings settings build))
    (empty : session.cache.kept = none) : last.cache.kept = none := by
  induction course with
  | done session => exact empty
  | answered action _ ih =>
      rw [List.forall_mem_cons] at noSettings
      refine ih noSettings.2 (empty_step action (fun settings build same => ?_) empty)
      exact noSettings.1 settings build (congrArg some same)
  | failed environment _ _ ih =>
      rw [List.forall_mem_cons] at noSettings
      exact ih noSettings.2 empty

end

/-- After the event no settings are kept. -/
def Empties (event : Step × Option Answer) : Prop :=
  event.1 = .clear ∨ ∃ refusal, event = (.get, some (.refused refusal))

theorem empty_of_empties {session next : Session} {event : Step × Option Answer}
    (empties : Empties event) (course : Course session [event] next) :
    next.cache.kept = none := by
  rcases empties with clears | ⟨refusal, rfl⟩
  · obtain ⟨step, answer⟩ := event
    obtain rfl : step = .clear := clears
    cases course with
    | answered action rest =>
        cases rest
        rw [← (Prod.mk.inj (Except.ok.inj action)).2]
        rfl
    | failed environment action rest => cases action
  · cases course with
    | answered action rest =>
        cases rest
        exact empty_of_refused refusal action

/-- Settings that were given are given again until they are cleared, whatever happens meanwhile.
With nothing kept they are loaded from the environment and the usual environment file of the moment,
and what is refused changes nothing. -/
theorem get_over_course (session moment : Session) (events : List (Step × Option Answer))
    (course : Course session events moment) :
    (∀ front between settings build,
      events = front ++ (.get, some (.settings settings build)) :: between →
      (∀ event ∈ between, event.1 ≠ .clear) →
      moment.step .get = .ok (.settings settings build, moment)) ∧
    (∀ front between event, events = front ++ event :: between → Empties event →
      (∀ later ∈ between, ∀ settings build, later.2 ≠ some (.settings settings build)) →
      (∀ lines, UsualLines moment.toSurroundings lines →
        (∀ settings, (∃ build next, moment.step .get = .ok (.settings settings build, next)) ↔
          load (sourcesOf moment.environment lines) = .ok settings) ∧
        ∀ refusal, (∃ next, moment.step .get = .ok (.refused refusal, next)) ↔
          ∃ issues, load (sourcesOf moment.environment lines) = .error issues ∧
            refusal = .invalid issues) ∧
      ((∀ lines, ¬ UsualLines moment.toSurroundings lines) →
        ∃ fault, moment.step .get = .ok (.refused (.startup fault), moment)) ∧
      ∀ refusal next, moment.step .get = .ok (.refused refusal, next) → next = moment) := by
  refine ⟨?kept, ?fresh⟩
  case kept =>
    rintro front between settings build rfl noClear
    obtain ⟨before, -, course⟩ := (course_append_iff _ _ _ _).mp course
    cases course with
    | answered action between =>
        exact step_get_kept (settings, build)
          (kept_course between noClear _ (kept_of_get settings build action))
  case fresh =>
    rintro front between event rfl empties noSettings
    obtain ⟨before, -, course⟩ := (course_append_iff _ _ _ _).mp course
    obtain ⟨after, emptied, between⟩ := (course_append_iff before moment [event] _).mp course
    have empty := empty_course between noSettings (empty_of_empties empties emptied)
    refine ⟨fun lines usual => ?lines, fun unreadable => ?unreadable, fun refusal next => ?same⟩
    case lines =>
      have given := loadFrom_of_lines usual
      cases loaded : load (sourcesOf moment.environment lines) with
      | ok settings =>
          rw [loaded] at given
          rw [step_get_loads empty settings given]
          simp
      | error issues =>
          rw [loaded] at given
          rw [step_get_fails empty (.invalid issues) given]
          simp [eq_comm]
    case unreadable =>
      obtain ⟨fault, failed⟩ := loadFrom_of_no_lines unreadable
      exact ⟨fault, step_get_fails empty _ failed⟩
    case same =>
      intro refused
      cases loaded : loadFrom moment.toSurroundings with
      | ok settings =>
          rw [step_get_loads empty settings loaded] at refused
          cases (Prod.mk.inj (Except.ok.inj refused)).1
      | error _ =>
          rw [step_get_fails empty _ loaded] at refused
          exact (Prod.mk.inj (Except.ok.inj refused)).2.symm

def levelVariable : Text := "SCHEMASCAN_LOG_LEVEL".toList

def unknownLevel : Arguments.Refusal :=
  .invalid [.onField "log_level".toList (.unknownLevel Log.Level.names)]

/-- The level is bad when settings are asked for first. -/
def badLevel : List (Step × Option Answer) :=
  [(.setVariable levelVariable "nope".toList, some .nothing),
   (.get, some (.refused unknownLevel)),
   (.setVariable levelVariable "debug".toList, some .nothing)]

/-- It is good the next time, and has gone in the end. -/
def goodLevel : List (Step × Option Answer) :=
  [(.get, some (.settings { level := .debug } 0)),
   (.unsetVariable levelVariable, some (.text (some "debug".toList)))]

theorem get_over_course_repaired :
    ∃ moment last, Course {} badLevel moment ∧ Course {} (badLevel ++ goodLevel) last ∧
      (∃ build next, moment.step .get = .ok (.settings { level := .debug } build, next)) ∧
      last.environment = [] ∧ last.step .get = .ok (.settings { level := .debug } 0, last) := by
  let moment : Session := { environment := [(levelVariable, "debug".toList)] }
  let last : Session := { cache := { kept := some ({ level := .debug }, 0), built := 1 } }
  have before : Course {} badLevel moment :=
    .answered rfl (.answered (show Session.step
      { environment := [(levelVariable, "nope".toList)] } .get = _ from rfl)
      (.answered rfl (.done _)))
  have behind : Course moment goodLevel last := .answered rfl (.answered rfl (.done _))
  have whole : Course {} (badLevel ++ goodLevel) last :=
    (course_append_iff _ _ _ _).mpr ⟨moment, before, behind⟩
  obtain ⟨-, fresh⟩ := get_over_course {} moment badLevel before
  obtain ⟨kept, -⟩ := get_over_course {} last (badLevel ++ goodLevel) whole
  refine ⟨moment, last, before, whole, ?loads, rfl, ?keeps⟩
  case loads =>
    obtain ⟨reads, -⟩ := fresh _ [(.setVariable levelVariable "debug".toList, some .nothing)] _
      (show badLevel = [_] ++ _ :: _ from rfl) (.inr ⟨_, rfl⟩) (by simp)
    exact ((reads [] .unasked).1 _).mpr rfl
  case keeps =>
    exact kept badLevel [(.unsetVariable levelVariable, some (.text (some "debug".toList)))] _ _
      rfl (by simp)

def octetsOf (content : Text) : Bytes := content.map fun c => UInt8.ofNat c.toNat

/-- The usual environment file has a bad level. -/
def badFile : Surroundings where
  files := { entries := [([".env".toList], .file (octetsOf "SCHEMASCAN_LOG_LEVEL=nope".toList))] }

/-- The variable that was taken in from the file when the program was loaded is unset later. -/
def unsetLevel : List (Step × Option Answer) :=
  [(.get, some (.refused unknownLevel)),
   (.unsetVariable levelVariable, some (.text (some "nope".toList)))]

theorem get_heeds_usualFile :
    ∃ around moment, Startup.begun badFile = .ok around ∧
      Course { toSurroundings := around, started := true } unsetLevel moment ∧
      load { environment := moment.environment } = .ok {} ∧
      moment.step .get = .ok (.refused unknownLevel, moment) := by
  let around (environment : Environment) : Surroundings :=
    { badFile with environment, usualFile := some ".env".toList }
  let session (environment : Environment) : Session :=
    { toSurroundings := around environment, started := true }
  have refuses (environment : Environment)
      (fails : loadFrom (around environment) = .error unknownLevel) :
      (session environment).step .get = .ok (.refused unknownLevel, session environment) :=
    step_get_fails rfl unknownLevel fails
  have first := refuses [(levelVariable, "nope".toList)] (by decide +kernel)
  have again := refuses [] (by decide +kernel)
  exact ⟨around _, session [], by decide +kernel, .answered first (.answered rfl (.done _)), rfl,
    again⟩

end DocScan.Settings
