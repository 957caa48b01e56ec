import DocScan.Log.Session
import DocScan.Proofs.Correlation.Nesting
import DocScan.Proofs.Log.Written

/-!
# Records over a session

However often the log has been set up, a record goes to the stream of the latest set-up that
succeeded and to no other one. Whether it is written depends on the level of that set-up alone, and
the id that it shows on the correlation steps up to the moment it is logged.
-/

namespace DocScan.Log

/-! ## Setting up -/

theorem Root.setup_cases (root : Root) (cache : Settings.Cache) (around : Surroundings)
    (requested : Option Text) (stream : Nat) :
    (∃ settings build lowest, (cache.get around).1 = .ok (settings, build) ∧
      Level.ofAnyName? (levelName settings requested) = some lowest ∧
      (root.setup cache around requested stream).1 = (none, ofLevel settings lowest stream)) ∨
    ∃ fault, (root.setup cache around requested stream).1 = (some fault, root) := by
  dsimp only [setup]
  cases loaded : (cache.get around).1 with
  | error refusal => exact .inr ⟨_, undergo_of_error root _ rfl⟩
  | ok found =>
      cases known : Level.ofAnyName? (levelName found.1 requested) with
      | some lowest =>
          exact .inl ⟨found.1, found.2, lowest, rfl, known, undergo_of_known root _ rfl known⟩
      | none => exact .inr ⟨_, undergo_of_unknown root _ rfl known⟩

/-! ## The session behind some steps -/

def Step.correlation? : Step → Option Correlation.Step
  | .correlate step => some step
  | _ => none

def correlations (steps : List Step) : List Correlation.Step := steps.filterMap Step.correlation?

namespace Session

variable (spell : Nat → Text)

def after (session : Session) (steps : List Step) : Session := (session.run spell steps).2

theorem after_cons (session : Session) (step : Step) (steps : List Step) :
    session.after spell (step :: steps) = (session.step spell step).2.after spell steps := rfl

theorem after_append (session : Session) (front rest : List Step) :
    session.after spell (front ++ rest) = (session.after spell front).after spell rest := by
  induction front generalizing session with
  | nil => rfl
  | cons step front ih => exact ih (session.step spell step).2

/-! ## What a step does -/

theorem setup_cases (session : Session) (requested : Option Text) :
    (∃ settings build lowest,
      (session.cache.get session.toSurroundings).1 = .ok (settings, build) ∧
      Level.ofAnyName? (Root.levelName settings requested) = some lowest ∧
      (session.step spell (.setup requested)).1 =
        .root (Root.ofLevel settings lowest session.setups) ∧
      (session.step spell (.setup requested)).2.root =
        Root.ofLevel settings lowest session.setups) ∨
    (∃ fault handlers, (session.step spell (.setup requested)).1 = .refused fault handlers ∧
      (session.step spell (.setup requested)).2.root = session.root) := by
  simp only [Session.step, Session.setup]
  rcases session.root.setup_cases session.cache session.toSurroundings requested session.setups with
    ⟨settings, build, lowest, loaded, named, result⟩ | ⟨fault, result⟩
  · rw [result]
    exact .inl ⟨settings, build, lowest, loaded, named, rfl, rfl⟩
  · rw [result]
    exact .inr ⟨fault, _, rfl, rfl⟩

/-- Whether or not a set-up succeeds, it uses up a stream and leaves the id alone. -/
theorem setup_keeps (session : Session) (requested : Option Text) :
    (session.step spell (.setup requested)).2.setups = session.setups + 1 ∧
      (session.step spell (.setup requested)).2.correlation = session.correlation := by
  simp only [Session.step, Session.setup]
  rcases session.root.setup_cases session.cache session.toSurroundings requested session.setups with
    ⟨_, _, _, -, -, result⟩ | ⟨_, result⟩
  all_goals
    rw [result]
    exact ⟨rfl, rfl⟩

theorem correlation_step (session : Session) (step : Step) :
    (session.step spell step).2.correlation =
      session.correlation.after step.correlation?.toList := by
  cases step with
  | setVariable name value => rfl
  | setup requested => exact (setup_keeps spell session requested).2
  | correlate step => rfl
  | log record => rfl

theorem root_step {session : Session} {step : Step}
    (noRoot : ∀ root, (session.step spell step).1 ≠ .root root) :
    (session.step spell step).2.root = session.root := by
  cases step with
  | setVariable name value => rfl
  | setup requested =>
      rcases setup_cases spell session requested with
        ⟨_, _, _, -, -, answered, -⟩ | ⟨_, _, -, kept⟩
      · exact absurd answered (noRoot _)
      · exact kept
  | correlate step => rfl
  | log record => rfl

theorem setups_step (session : Session) (step : Step) :
    session.setups ≤ (session.step spell step).2.setups := by
  cases step with
  | setVariable name value => exact Nat.le_refl _
  | setup requested =>
      rw [(setup_keeps spell session requested).1]
      exact Nat.le_succ _
  | correlate step => exact Nat.le_refl _
  | log record => exact Nat.le_refl _

/-! ## What a run does -/

theorem correlation_after (session : Session) (steps : List Step) :
    (session.after spell steps).correlation =
      session.correlation.after (correlations steps) := by
  induction steps generalizing session with
  | nil => rfl
  | cons step steps ih =>
      have split : correlations (step :: steps) =
          step.correlation?.toList ++ correlations steps := by
        cases step <;> rfl
      rw [after_cons, ih, correlation_step, split, Correlation.Session.after_append]

theorem root_after {session : Session} {steps : List Step}
    (noRoot : ∀ root, .root root ∉ (session.run spell steps).1) :
    (session.after spell steps).root = session.root := by
  induction steps generalizing session with
  | nil => rfl
  | cons step steps ih =>
      have here (root : Root) : (session.step spell step).1 ≠ .root root := fun answered =>
        noRoot root (answered ▸ List.mem_cons_self)
      have later (root : Root) : .root root ∉ ((session.step spell step).2.run spell steps).1 :=
        fun member => noRoot root (List.mem_cons_of_mem _ member)
      rw [after_cons, ih later, root_step spell here]

theorem setups_after (session : Session) (steps : List Step) :
    session.setups ≤ (session.after spell steps).setups := by
  induction steps generalizing session with
  | nil => exact Nat.le_refl _
  | cons step steps ih => exact Nat.le_trans (setups_step spell session step) (ih _)

theorem setups_lt (session : Session) (earlier later : List Step) (requested : Option Text) :
    (session.after spell earlier).setups <
      (session.after spell (earlier ++ .setup requested :: later)).setups := by
  have grown := setups_after spell
    ((session.after spell earlier).step spell (.setup requested)).2 later
  rw [(setup_keeps spell _ requested).1] at grown
  rw [after_append, after_cons]
  exact grown

end Session

/-! ## Records -/

theorem deliver_ofLevel (settings : Settings) (lowest : Level) (stream : Nat)
    (current : Option Text) {record : Record} (positive : 0 < record.level) :
    (Root.ofLevel settings lowest stream).deliver current record =
      if lowest.number ≤ record.level then
        (((Root.formatOf settings).write record (some current)).map (stream, ·)).toList
      else [] := by
  by_cases reaches : lowest.number ≤ record.level
  · have admitted : (Root.ofLevel settings lowest stream).admits record.level = true := by
      simp [Root.admits, Root.ofLevel, positive, reaches]
    have above : ¬ record.level < lowest.number := Int.not_lt.mpr reaches
    rw [Root.deliver, if_pos admitted, if_pos reaches]
    simp only [Root.ofLevel, List.filterMap_cons, List.filterMap_nil, Handler.handle, if_neg above,
      Handler.stamp, List.mem_singleton, if_true]
    cases (Root.formatOf settings).write record (some current) <;> rfl
  · rw [Root.deliver_below _ _ _ (Int.not_le.mp reaches), if_neg reaches]

/-- Behind a set-up that succeeded and was the last one to do so, a record of a standard level is
written to the stream of that set-up, once, if it reaches the level of the set-up, and nowhere
otherwise. It shows its message, the name of its level and the id in force when it is logged. -/
theorem written_by_latest_setup (spell : Nat → Text) (session : Session) (front between : List Step)
    (requested : Option Text) (root : Root)
    (succeeded : ((session.after spell front).step spell (.setup requested)).1 = .root root)
    (latest : ∀ other, .root other ∉
      ((session.after spell (front ++ [.setup requested])).run spell between).1) :
    let before := session.after spell front
    let steps := front ++ .setup requested :: between
    let moment := session.after spell steps
    let id := (session.correlation.after (correlations steps)).tracer.current.map
      (Correlation.Id.text spell)
    ∃ settings build lowest,
      (before.cache.get before.toSurroundings).1 = .ok (settings, build) ∧
      Level.ofAnyName? (Root.levelName settings requested) = some lowest ∧
      (∀ earlier other later, front = earlier ++ .setup other :: later →
        (session.after spell earlier).setups < before.setups) ∧
      ∀ record message, ∀ level ∈ Level.standard, record.level = level.number →
        record.extras = [] → record.message? = some message →
        (Root.formatOf settings = .plain → record.time?.isSome) →
        (moment.step spell (.log record)).2 = moment ∧
        (level.number < lowest.number →
          (moment.step spell (.log record)).1 = .written []) ∧
        (lowest.number ≤ level.number → ∃ text,
          (moment.step spell (.log record)).1 = .written [(before.setups, text)] ∧
          Shows (Root.formatOf settings) record level message id text) := by
  intro before steps moment id
  have moved : moment = (before.step spell (.setup requested)).2.after spell between :=
    Session.after_append spell session front _
  have behind : session.after spell (front ++ [.setup requested]) =
      (before.step spell (.setup requested)).2 := Session.after_append spell session front _
  have inForce : moment.currentId spell = id := by
    rw [Session.currentId, Session.correlation_after]
  rcases Session.setup_cases spell before requested with
    ⟨settings, build, lowest, loaded, named, -, installed⟩ | ⟨fault, handlers, refused, -⟩
  · -- Nothing behind the set-up has answered with a root, so its handler is still there.
    have atRoot : moment.root = Root.ofLevel settings lowest before.setups := by
      rw [moved, Session.root_after spell (behind ▸ latest), installed]
    refine ⟨settings, build, lowest, loaded, named, ?streams, ?records⟩
    case streams =>
      rintro earlier other later rfl
      exact Session.setups_lt spell session earlier later other
    case records =>
      intro record message level standard numbered bare filled dated
      have positive : 0 < record.level := numbered ▸ Level.number_pos standard
      have delivered := deliver_ofLevel settings lowest before.setups id positive
      rw [← atRoot, numbered] at delivered
      have answered : (moment.step spell (.log record)).1 =
          .written (moment.root.deliver id record) := by
        rw [Session.step_log, inForce]
      refine ⟨rfl, fun below => ?_, fun reaches => ?_⟩
      · rw [answered, delivered, if_neg (Int.not_le.mpr below)]
      · obtain ⟨text, written, shows⟩ :=
          exists_write (Root.formatOf settings) bare numbered filled dated id
        refine ⟨text, ?_, shows⟩
        rw [answered, delivered, if_pos reaches, written]
        rfl
  · rw [refused] at succeeded
    cases succeeded

/-- Two set-ups, the second of which has a level in small letters. -/
def raised : List Step := [.setup (some "DEBUG".toList), .setup (some "error".toList)]

/-- The id is set behind the set-up, and a third one is refused. -/
def behindRaised : List Step :=
  [.correlate (.set (some (.given ['i', '\n']))), .setup (some ['?'])]

def brokenRecord : Record :=
  { level := 40, place := { logger := ['l'], module := ['m'], function := ['f'] }, line := 1
    created := .zero false, template := ['a', '\n', 'b'] }

theorem written_by_latest_setup_raised :
    ∃ text,
      ((Session.after Text.ofNat {} (raised ++ behindRaised)).step Text.ofNat
        (.log brokenRecord)).1 = .written [(1, text)] ∧
      Shows .json brokenRecord .error ['a', '\n', 'b'] (some ['i', '\n']) text := by
  have answers : ((Session.after Text.ofNat {} raised).run Text.ofNat behindRaised).1 =
      [.correlation (.id (.given ['i', '\n'])), .refused (.unknownLevel ['?']) 1] := rfl
  have latest : ∀ other, .root other ∉
      ((Session.after Text.ofNat {} raised).run Text.ofNat behindRaised).1 := by
    intro other member
    rw [answers] at member
    simp at member
  obtain ⟨settings, build, lowest, loaded, named, -, records⟩ :=
    written_by_latest_setup Text.ofNat {} [.setup (some "DEBUG".toList)] behindRaised
      (some "error".toList) _ rfl latest
  have usual : ((Session.after Text.ofNat {} [.setup (some "DEBUG".toList)]).cache.get {}).1 =
      .ok ({}, 0) := rfl
  obtain ⟨rfl, rfl⟩ := Prod.mk.inj (Except.ok.inj (loaded.symm.trans usual))
  have error : Level.ofAnyName? (Root.levelName {} (some "error".toList)) = some .error := rfl
  obtain rfl := Option.some.inj (named.symm.trans error)
  have standard : Level.error ∈ Level.standard := by decide
  obtain ⟨-, -, reaching⟩ := records brokenRecord ['a', '\n', 'b'] .error standard rfl rfl rfl
    fun plain => absurd plain (by decide)
  exact reaching (by decide)

end DocScan.Log
