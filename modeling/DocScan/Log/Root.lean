import DocScan.Log.Record
import DocScan.Settings.Session

/-!
# The root of the log

All records pass the root: it has a level and hands what reaches that level to its handlers, each of
which has a level of its own, a form and a stream. Setting up changes the root in place, step by
step: its level is set, all handlers are dropped, and a new one is made and added.
-/

namespace DocScan.Log

/-! ## Handlers -/

inductive Filter where
  | correlation
deriving DecidableEq, Repr

/-- A handler writes records of its level and above to a stream, which is known by its number. -/
structure Handler where
  level : Int
  format : Format
  filters : List Filter
  stream : Nat
deriving DecidableEq, Repr

namespace Handler

def stamp (handler : Handler) (current : Option Text) : Stamp :=
  if .correlation ∈ handler.filters then some current else none

def handle (handler : Handler) (current : Option Text) (record : Record) : Option (Nat × Text) :=
  if record.level < handler.level then none
  else (handler.format.write record (handler.stamp current)).map (handler.stream, ·)

end Handler

/-! ## The root -/

structure Root where
  level : Int := Level.warning.number
  handlers : List Handler := []
deriving DecidableEq, Repr

inductive SetupFault where
  | settings (refusal : Settings.Arguments.Refusal)
  | unknownLevel (name : Text)
deriving DecidableEq, Repr

def SetupFault.message : SetupFault → Text
  | .settings refusal => refusal.message
  | .unknownLevel name => "Unknown level: ".toList ++ Text.literal name

namespace Root

/-- The root passes a record on. A record needs a level above zero, whatever the level of the root:
zero only opens the root to everything else. -/
def admits (root : Root) (level : Int) : Bool := 0 < level ∧ root.level ≤ level

def deliver (root : Root) (current : Option Text) (record : Record) : List (Nat × Text) :=
  if root.admits record.level then root.handlers.filterMap (·.handle current record) else []

theorem deliver_below (root : Root) (current : Option Text) (record : Record)
    (below : record.level < root.level) : root.deliver current record = [] := by
  simp [deliver, admits, Int.not_le.mpr below]

/-! ## Setting up -/

/-- The name of the level in force: the requested one, unless it is empty, or else that of the
settings. The case of its letters does not matter. -/
def levelName (settings : Settings) (requested : Option Text) : Text :=
  let requested := requested.getD []
  Text.upper (if requested = [] then settings.level.name else requested)

def formatOf (settings : Settings) : Format := if settings.json then .json else .plain

def levelNamed (name : Text) : Except SetupFault Level :=
  match Level.ofAnyName? name with
  | some level => .ok level
  | none => .error (.unknownLevel name)

inductive Change where
  | setLevel (name : Text)
  | dropHandlers
  /-- A handler is made, with a level of its own, and added behind the others. -/
  | addHandler (name : Text) (format : Format) (stream : Nat)

def Change.apply (root : Root) : Change → Except SetupFault Root
  | .setLevel name => (levelNamed name).map fun level => { root with level := level.number }
  | .dropHandlers => .ok { root with handlers := [] }
  | .addHandler name format stream =>
    (levelNamed name).map fun level =>
      { root with
        handlers := root.handlers ++
          [{ level := level.number, format, filters := [.correlation], stream }] }

/-- Changes made one after the other, up to the first one that fails. What is in front of it stays
changed. -/
def applyAll (root : Root) : List Change → Option SetupFault × Root
  | [] => (none, root)
  | change :: changes =>
    match change.apply root with
    | .ok changed => changed.applyAll changes
    | .error fault => (some fault, root)

end Root

/-- A set-up: what its settings come to when it is tried, the level that it requests, and its
stream. -/
structure Setup where
  loaded : Except Settings.Arguments.Refusal Settings
  requested : Option Text
  stream : Nat

def Setup.changes (setup : Setup) (settings : Settings) : List Root.Change :=
  let name := Root.levelName settings setup.requested
  [.setLevel name, .dropHandlers, .addHandler name (Root.formatOf settings) setup.stream]

namespace Root

/-- A set-up carried out on a root, with the fault that stops it, if one does. The settings are
needed even when a level is requested. -/
def undergo (root : Root) (setup : Setup) : Option SetupFault × Root :=
  match setup.loaded with
  | .error refusal => (some (.settings refusal), root)
  | .ok settings => root.applyAll (setup.changes settings)

/-- Setting up with the settings that are kept, or else with those that are to be found around. -/
def setup (root : Root) (cache : Settings.Cache) (around : Surroundings) (requested : Option Text)
    (stream : Nat) : (Option SetupFault × Root) × Settings.Cache :=
  let got := cache.get around
  (root.undergo { loaded := got.1.map Prod.fst, requested, stream }, got.2)

def ofLevel (settings : Settings) (level : Level) (stream : Nat) : Root :=
  { level := level.number
    handlers :=
      [{ level := level.number, format := formatOf settings, filters := [.correlation], stream }] }

section

variable (root : Root) (setup : Setup)

theorem undergo_of_error {refusal : Settings.Arguments.Refusal}
    (bad : setup.loaded = .error refusal) :
    root.undergo setup = (some (.settings refusal), root) := by
  rw [undergo, bad]

variable {settings : Settings} (good : setup.loaded = .ok settings)

include good

theorem undergo_of_known {level : Level}
    (known : Level.ofAnyName? (levelName settings setup.requested) = some level) :
    root.undergo setup = (none, ofLevel settings level setup.stream) := by
  -- The name is known, so it is known once more when the handler gets its level.
  have named : levelNamed (levelName settings setup.requested) = .ok level := by
    rw [levelNamed, known]
  rw [undergo, good]
  simp only [Setup.changes, applyAll, Change.apply, named]
  rfl

theorem undergo_of_unknown
    (unknown : Level.ofAnyName? (levelName settings setup.requested) = none) :
    root.undergo setup = (some (.unknownLevel (levelName settings setup.requested)), root) := by
  -- Nothing has been changed yet when the name is looked up for the first time.
  rw [undergo, good]
  simp only [Setup.changes, applyAll, Change.apply, levelNamed, unknown]
  rfl

end

end Root

end DocScan.Log
