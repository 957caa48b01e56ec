import DocScan.Proofs.Settings.Bindings
import DocScan.Proofs.Settings.Course

/-!
# The environment file in a course

The environment file is taken in by the first start that does not fail. Which file that is depends
on the moment of that start. What is set already stays, and the file adds what the last lines for
the other names say. After that no start does anything.
-/

namespace DocScan.Settings

open Startup (Found)

/-! ## The file that is picked -/

namespace Session

/-- The variable for the environment file is not empty and spells this path. -/
def Names (session : Session) (path : Path) : Prop :=
  ∃ written, session.environment.get? Startup.variableName = some written ∧ written ≠ [] ∧
    session.homes.expand (session.environment.get? Startup.homeVariable) (Path.ofText written) =
      some path

/-- The paths that the environment file can have, the preferred ones first: the one that is named,
the one in the working directory, and those in the directories above the program. -/
inductive Offers (session : Session) : List Path → Prop
  | named {path : Path} (names : session.Names path) :
      Offers session (path :: Startup.usualPaths session.above)
  | unnamed
      (empty : ∀ written, session.environment.get? Startup.variableName = some written →
        written = []) :
      Offers session (Startup.usualPaths session.above)

def HasFile (session : Session) (file : Found) : Prop :=
  session.files.find file.path = .ok (file.place, .file file.octets)

/-- A path leads to a directory, or nowhere. -/
def Lacks (session : Session) (path : Path) : Prop :=
  (∃ place, session.files.find path = .ok (place, .directory)) ∨
    session.files.find path = .error .absent

/-- The rules for the file that is taken in: it is the first one that there is. -/
inductive Picks (session : Session) : Option Found → Prop
  | file {before after : List Path} {file : Found}
      (offers : session.Offers (before ++ file.path :: after))
      (lacks : ∀ path ∈ before, session.Lacks path) (isFile : session.HasFile file) :
      Picks session (some file)
  | nothing {paths : List Path} (offers : session.Offers paths)
      (lacks : ∀ path ∈ paths, session.Lacks path) : Picks session none

variable {session : Session}

theorem file?_eq_some_iff {file : Found} :
    session.files.file? file.path = .ok (some (file.place, file.octets)) ↔
      session.HasFile file := by
  unfold Files.file? HasFile
  split <;> simp_all

theorem file?_eq_none_iff {path : Path} :
    session.files.file? path = .ok none ↔ session.Lacks path := by
  unfold Files.file? Lacks
  split <;> simp_all

theorem firstFile?_cons_of_lacks {path : Path} (paths : List Path) (lacks : session.Lacks path) :
    Startup.firstFile? session.files (path :: paths) = Startup.firstFile? session.files paths := by
  rw [Startup.firstFile?, file?_eq_none_iff.mpr lacks]

theorem firstFile?_of_lacks (before paths : List Path)
    (lacks : ∀ path ∈ before, session.Lacks path) :
    Startup.firstFile? session.files (before ++ paths) =
      Startup.firstFile? session.files paths := by
  induction before with
  | nil => rfl
  | cons path before ih =>
      rw [List.forall_mem_cons] at lacks
      rw [List.cons_append, firstFile?_cons_of_lacks _ lacks.1, ih lacks.2]

theorem firstFile?_cases {paths : List Path} {picked : Option Found}
    (looked : Startup.firstFile? session.files paths = .ok picked) :
    (picked = none ∧ ∀ path ∈ paths, session.Lacks path) ∨
    ∃ before after file, picked = some file ∧ paths = before ++ file.path :: after ∧
      (∀ path ∈ before, session.Lacks path) ∧ session.HasFile file := by
  induction paths with
  | nil => exact .inl ⟨(Except.ok.inj looked).symm, by simp⟩
  | cons path paths ih =>
      unfold Startup.firstFile? at looked
      split at looked
      · cases looked
      · rename_i place octets found
        obtain rfl := Except.ok.inj looked
        exact .inr ⟨[], paths, ⟨path, place, octets⟩, rfl, rfl, by simp, file?_eq_some_iff.mp found⟩
      · rename_i found
        have lacking := file?_eq_none_iff.mp found
        rcases ih looked with ⟨rfl, lacks⟩ | ⟨before, after, file, rfl, rfl, lacks, isFile⟩
        · exact .inl ⟨rfl, List.forall_mem_cons.mpr ⟨lacking, lacks⟩⟩
        · exact .inr ⟨path :: before, after, file, rfl, rfl,
            List.forall_mem_cons.mpr ⟨lacking, lacks⟩, isFile⟩

theorem expanded_eq_ok_iff {text : Text} {path : Path} :
    Startup.expanded session.environment session.homes text = .ok path ↔
      session.homes.expand (session.environment.get? Startup.homeVariable) (Path.ofText text) =
        some path := by
  unfold Startup.expanded
  split <;> simp_all

theorem candidates_eq_ok_iff {paths : List Path} :
    Startup.candidates session.toSurroundings = .ok paths ↔ session.Offers paths := by
  by_cases unnamed : (session.environment.get? Startup.variableName).getD [] = []
  · have unwritten : ∀ written,
        session.environment.get? Startup.variableName = some written → written = [] := by
      rintro written isWritten
      rwa [isWritten, Option.getD_some] at unnamed
    simp only [Startup.candidates, Startup.named?, if_pos unnamed]
    constructor
    · rintro ⟨⟩
      exact .unnamed unwritten
    · rintro (⟨written, isWritten, nonempty, -⟩ | -)
      · exact absurd (unwritten written isWritten) nonempty
      · rfl
  · obtain ⟨written, isWritten⟩ : ∃ written,
        session.environment.get? Startup.variableName = some written := by
      cases found : session.environment.get? Startup.variableName with
      | none => simp [found] at unnamed
      | some written => exact ⟨written, rfl⟩
    rw [isWritten, Option.getD_some] at unnamed
    simp only [Startup.candidates, Startup.named?, isWritten, Option.getD_some, if_neg unnamed,
      map_eq_ok_iff]
    constructor
    · rintro ⟨_, ⟨path, expands, rfl⟩, rfl⟩
      exact .named ⟨written, isWritten, unnamed, expanded_eq_ok_iff.mp expands⟩
    · rintro (⟨again, isAgain, -, expands⟩ | empty)
      · obtain rfl := Option.some.inj (isWritten.symm.trans isAgain)
        exact ⟨_, ⟨_, expanded_eq_ok_iff.mpr expands, rfl⟩, rfl⟩
      · exact absurd (empty written isWritten) unnamed

theorem chosen_eq_ok_iff {picked : Option Found} :
    Startup.chosen session.toSurroundings = .ok picked ↔ session.Picks picked := by
  simp only [Startup.chosen, bind_eq_ok_iff, candidates_eq_ok_iff]
  constructor
  · rintro ⟨paths, offers, looked⟩
    rcases firstFile?_cases looked with
      ⟨rfl, lacks⟩ | ⟨before, after, file, rfl, rfl, lacks, isFile⟩
    · exact .nothing offers lacks
    · exact .file offers lacks isFile
  · intro picks
    cases picks with
    | @file before after file offers lacks isFile =>
        refine ⟨_, offers, ?_⟩
        rw [firstFile?_of_lacks before _ lacks, Startup.firstFile?, file?_eq_some_iff.mpr isFile]
    | @nothing paths offers lacks =>
        refine ⟨paths, offers, ?_⟩
        have looked := firstFile?_of_lacks paths [] lacks
        rwa [List.append_nil] at looked

theorem Picks.unique {picked other : Option Found} (picks : session.Picks picked)
    (alsoPicks : session.Picks other) : picked = other :=
  Except.ok.inj ((chosen_eq_ok_iff.mpr picks).symm.trans (chosen_eq_ok_iff.mpr alsoPicks))

/-! ## When a start does not fail -/

/-- Nothing stands in the way of the environment file: it can be looked for, and the file that is
picked is a text of which every name that it adds can be set. -/
structure CanStart (session : Session) : Prop where
  found : ∃ picked, session.Picks picked
  settable : ∀ file, session.Picks (some file) → ∃ content,
    TextFile.read .utf8 file.octets = .ok content ∧
      ∀ name value, session.environment.get? name = none →
        EnvFile.LastLine .environment session.environment (EnvFile.bindings content) name
          (some value) →
        Environment.fault? name value = none

theorem octets?_of_no_usualFile (fileless : session.usualFile = none) :
    Startup.octets? session.toSurroundings =
      (Startup.chosen session.toSurroundings).map (·.map Found.octets) := by
  rw [Startup.octets?, fileless]

/-- What an environment is extended by, if that does not fail. -/
theorem extended_cases {environment : Environment} (fileless : session.usualFile = none)
    (extended : Startup.extended session.toSurroundings = .ok environment) :
    ∃ picked, session.Picks picked ∧ (picked = none → environment = session.environment) ∧
      ∀ file, picked = some file → ∃ content, TextFile.read .utf8 file.octets = .ok content ∧
        EnvFile.extend session.environment content = .ok environment := by
  rw [Startup.extended, octets?_of_no_usualFile fileless, bind_eq_ok_iff] at extended
  obtain ⟨octets, given, extended⟩ := extended
  obtain ⟨picked, isChosen, rfl⟩ := map_eq_ok_iff.mp given
  refine ⟨picked, chosen_eq_ok_iff.mp isChosen, ?none, ?some⟩
  case none =>
    rintro rfl
    exact (Except.ok.inj extended).symm
  case some =>
    rintro file rfl
    obtain ⟨content, isRead, added⟩ := bind_eq_ok_iff.mp extended
    exact ⟨content, mapError_eq_ok_iff.mp isRead, mapError_eq_ok_iff.mp added⟩

theorem exists_extended_iff (fileless : session.usualFile = none) :
    (∃ environment, Startup.extended session.toSurroundings = .ok environment) ↔
      session.CanStart := by
  constructor
  · rintro ⟨environment, extended⟩
    obtain ⟨picked, picks, -, takes⟩ := extended_cases fileless extended
    refine ⟨⟨picked, picks⟩, fun file alsoPicks => ?_⟩
    obtain ⟨content, isRead, added⟩ := takes file (picks.unique alsoPicks)
    exact ⟨content, isRead, (EnvFile.exists_extend_iff _ _).mp ⟨environment, added⟩⟩
  · rintro ⟨⟨picked, picks⟩, settable⟩
    have isChosen : Startup.octets? session.toSurroundings = .ok (picked.map Found.octets) := by
      rw [octets?_of_no_usualFile fileless, chosen_eq_ok_iff.mpr picks]
      rfl
    cases picked with
    | none => exact ⟨session.environment, bind_eq_ok_iff.mpr ⟨none, isChosen, rfl⟩⟩
    | some file =>
        obtain ⟨content, isRead, names⟩ := settable file picks
        obtain ⟨environment, added⟩ := (EnvFile.exists_extend_iff _ _).mpr names
        exact ⟨environment, bind_eq_ok_iff.mpr ⟨some file.octets, isChosen, bind_eq_ok_iff.mpr
          ⟨content, mapError_eq_ok_iff.mpr isRead, mapError_eq_ok_iff.mpr added⟩⟩⟩

theorem exists_start_iff (fileless : session.usualFile = none)
    (unstarted : session.started = false) :
    (∃ answer loaded, session.step .start = .ok (answer, loaded)) ↔ session.CanStart := by
  rw [← exists_extended_iff fileless]
  constructor
  · rintro ⟨answer, loaded, completes⟩
    rcases start_cases (step_start completes) with ⟨started, -⟩ | ⟨-, environment, extended, -⟩
    · rw [unstarted] at started
      cases started
    · exact ⟨environment, extended⟩
  · rintro ⟨environment, extended⟩
    refine ⟨.nothing, { session with environment, started := true }, ?_⟩
    simp only [step, start, unstarted, extended]
    rfl

end Session

/-! ## Starting -/

section

variable {session next last : Session} {step : Step} {answer : Answer}
  {events : List (Step × Option Answer)}

theorem started_step (action : session.step step = .ok (answer, next)) (noStart : step ≠ .start) :
    next.started = session.started := by
  rcases step_cases action with ⟨environment, files, rfl⟩ | ⟨starts, -⟩ | ⟨-, rfl⟩ | ⟨-, rfl⟩
  · rfl
  · exact absurd starts noStart
  · rfl
  · rfl

theorem unstarted_course (course : Course session events last)
    (noStart : ∀ event ∈ events, event.1 = .start → event.2 = none)
    (unstarted : session.started = false) : last.started = false := by
  induction course with
  | done session => exact unstarted
  | answered action _ ih =>
      rw [List.forall_mem_cons] at noStart
      refine ih noStart.2 ?_
      rw [started_step action fun starts => ?_, unstarted]
      cases noStart.1 starts
  | failed environment _ _ ih =>
      rw [List.forall_mem_cons] at noStart
      exact ih noStart.2 unstarted

theorem started_course (course : Course session events last)
    (started : session.started = true) : last.started = true := by
  induction course with
  | done session => exact started
  | @answered session next _ step _ _ action _ ih =>
      refine ih ?_
      by_cases starts : step = .start
      · subst starts
        rcases start_cases (step_start action) with ⟨-, rfl⟩ | ⟨unstarted, -⟩
        · exact started
        · rw [started] at unstarted
          cases unstarted
      · rw [started_step action starts, started]
  | failed environment _ _ ih => exact ih started

theorem usualFile_step (action : session.step step = .ok (answer, next)) :
    next.usualFile = session.usualFile := by
  rcases step_cases action with ⟨environment, files, rfl⟩ | ⟨-, started⟩ | ⟨-, rfl⟩ | ⟨-, rfl⟩
  · rfl
  · rcases start_cases started with ⟨-, rfl⟩ | ⟨-, environment, -, rfl⟩ <;> rfl
  · rfl
  · rfl

theorem usualFile_course (course : Course session events last) :
    last.usualFile = session.usualFile := by
  induction course with
  | done session => rfl
  | answered action _ ih => rw [ih, usualFile_step action]
  | failed environment _ _ ih => exact ih

end

/-- The first start that does not fail takes in the file that is picked at its moment, and no later
one does anything. -/
theorem first_start (session moment : Session) (events : List (Step × Option Answer))
    (fileless : session.usualFile = none) (unstarted : session.started = false)
    (course : Course session events moment)
    (first : ∀ event ∈ events, event.1 = .start → event.2 = none) :
    ((∃ answer loaded, moment.step .start = .ok (answer, loaded)) ↔ moment.CanStart) ∧
    ∀ answer loaded, moment.step .start = .ok (answer, loaded) →
      (∃ picked, (∀ other, moment.Picks other ↔ other = picked) ∧
        (picked = none → loaded.environment = moment.environment) ∧
        ∀ file, picked = some file → ∃ content, TextFile.read .utf8 file.octets = .ok content ∧
          ∀ name value, loaded.environment.get? name = some value ↔
            moment.environment.get? name = some value ∨
              moment.environment.get? name = none ∧
                EnvFile.LastLine .environment moment.environment (EnvFile.bindings content) name
                  (some value)) ∧
      loaded = { moment with environment := loaded.environment, started := true } ∧
      ∀ later last, Course loaded later last → last.step .start = .ok (.nothing, last) := by
  have before := unstarted_course course first unstarted
  have fileless := (usualFile_course course).trans fileless
  refine ⟨Session.exists_start_iff fileless before, fun answer loaded completes => ?_⟩
  rcases start_cases (step_start completes) with ⟨started, -⟩ | ⟨-, environment, extended, rfl⟩
  · rw [before] at started
    cases started
  refine ⟨?picks, rfl, ?later⟩
  case picks =>
    obtain ⟨picked, picks, unchanged, takes⟩ := Session.extended_cases fileless extended
    refine ⟨picked, fun other => ⟨fun also => also.unique picks, fun same => same ▸ picks⟩,
      unchanged, fun file isPicked => ?_⟩
    obtain ⟨content, isRead, added⟩ := takes file isPicked
    exact ⟨content, isRead, EnvFile.get?_extend_eq_some_iff _ _ _ added⟩
  case later =>
    intro later last after
    have started : last.started = true := started_course after rfl
    rw [Session.step, Session.start_started last started]
    rfl

def homeContent : Text := "A=1\nB=1\nB=2\nC=1\nC\nD=$\x7bA\x7dx$\x7bB\x7d\n".toList

/-- The home that is named first is not known, so the first start fails. -/
def toHome : List (Step × Option Answer) :=
  [(.setVariable Startup.variableName "~someone/conf".toList, some .nothing),
   (.start, none),
   (.setVariable Startup.variableName "~/conf".toList, some .nothing),
   (.setVariable Startup.homeVariable ['.'], some .nothing),
   (.setVariable ['A'] [], some .nothing),
   (.write "conf".toList (octetsOf homeContent), some .nothing)]

/-- The session before the second start. -/
def atHome : Session :=
  { environment :=
      [(Startup.variableName, "~/conf".toList), (Startup.homeVariable, ['.']), (['A'], [])]
    files := { entries := [(["conf".toList], .file (octetsOf homeContent))] } }

/-- Afterwards the file is another one, and one variable is gone. -/
def fromHome : List (Step × Option Answer) :=
  [(.write "conf".toList (octetsOf "A=2\nE=1\n".toList), some .nothing),
   (.unsetVariable ['B'], some (.text (some ['2'])))]

theorem first_start_home :
    ∃ loaded last, Course {} toHome atHome ∧ atHome.step .start = .ok (.nothing, loaded) ∧
      loaded.environment.get? ['A'] = some [] ∧ loaded.environment.get? ['B'] = some ['2'] ∧
      loaded.environment.get? ['C'] = none ∧ loaded.environment.get? ['D'] = some ['x', '2'] ∧
      Course loaded fromHome last ∧ last.step .start = .ok (.nothing, last) := by
  let loaded : Session :=
    { atHome with
      environment := atHome.environment ++ [(['B'], ['2']), (['D'], ['x', '2'])]
      started := true }
  have course : Course {} toHome atHome :=
    .answered rfl (.failed [(Startup.variableName, "~someone/conf".toList)] rfl
      (.answered rfl (.answered rfl (.answered rfl (.answered rfl (.done _))))))
  have completes : atHome.step .start = .ok (.nothing, loaded) := by
    have starts : atHome.start = .ok loaded := by decide +kernel
    rw [Session.step, starts]
    rfl
  obtain ⟨-, effect⟩ := first_start {} atHome toHome rfl rfl course (by simp [toHome])
  obtain ⟨⟨picked, picks, -, adds⟩, -, later⟩ := effect .nothing loaded completes
  have names : atHome.Names (Path.ofText "conf".toList) :=
    ⟨"~/conf".toList, rfl, by decide, rfl⟩
  have isFile : atHome.HasFile
      ⟨Path.ofText "conf".toList, ["conf".toList], octetsOf homeContent⟩ := rfl
  have offers : atHome.Offers ([] ++ Path.ofText "conf".toList :: _) := .named names
  obtain ⟨content, isRead, added⟩ := adds _ ((picks _).mp (.file offers (by simp) isFile)).symm
  have reads : TextFile.read .utf8 (octetsOf homeContent) = .ok homeContent := by decide +kernel
  obtain rfl := Except.ok.inj (reads.symm.trans isRead)
  have lines (name : Text) (value : Option Text) :=
    EnvFile.lookup_resolve_eq_some_iff .environment atHome.environment
      (EnvFile.bindings homeContent) name value
  have leaves : Course loaded fromHome _ := .answered rfl (.answered rfl (.done _))
  refine ⟨loaded, _, course, completes, ?kept, ?last, ?bare, ?refers, leaves, later _ _ leaves⟩
  case kept => exact (added ['A'] []).mpr (.inl rfl)
  case last =>
    exact (added ['B'] ['2']).mpr (.inr ⟨rfl, (lines _ _).mp (by decide +kernel)⟩)
  case refers =>
    exact (added ['D'] ['x', '2']).mpr (.inr ⟨rfl, (lines _ _).mp (by decide +kernel)⟩)
  case bare =>
    rw [Option.eq_none_iff_forall_ne_some]
    intro value isSet
    rcases (added ['C'] value).mp isSet with isOld | ⟨-, line⟩
    · cases isOld
    · have bound : (EnvFile.resolve .environment atHome.environment
          (EnvFile.bindings homeContent)).lookup ['C'] = some none := by decide +kernel
      rw [← lines, bound] at line
      cases line

/-- An environment file at the root, above the program, whose second value refers to the first. -/
def rootContent : Text := "A=1\nB=$\x7bA\x7d\n".toList

/-- A file that is neither named nor in the working directory is taken in, and not the value as it
is written. -/
theorem start_heeds_above :
    ∃ moment loaded,
      Course { above := [Path.ofText "/".toList] }
        [(.write "/.env".toList (octetsOf rootContent), some .nothing)] moment ∧
      moment.environment = [] ∧ moment.Lacks (Path.ofText Startup.defaultName) ∧
      EnvFile.bindings rootContent =
        [⟨['A'], some ['1']⟩, ⟨['B'], some "$\x7bA\x7d".toList⟩] ∧
      moment.step .start = .ok (.nothing, loaded) ∧
      loaded.environment = [(['A'], ['1']), (['B'], ['1'])] := by
  let moment : Session :=
    { above := [Path.ofText "/".toList]
      files := { entries :=
        [([['/'], ".env".toList], .file (octetsOf rootContent)), ([['/']], .directory)] } }
  let loaded : Session :=
    { moment with environment := [(['A'], ['1']), (['B'], ['1'])], started := true }
  have starts : moment.start = .ok loaded := by decide +kernel
  refine ⟨moment, loaded, .answered rfl (.done _), rfl, .inr rfl, by decide +kernel, ?_, rfl⟩
  rw [Session.step, starts]
  rfl

end DocScan.Settings
