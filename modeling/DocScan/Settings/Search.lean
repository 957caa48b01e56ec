import DocScan.Settings.Environment
import DocScan.Json.Value

/-!
# Looking for settings

How a setting is looked for in the environment, in files and among secrets: what the names of
variables start with, whether capitals count in names, whether empty values count, and which text
stands for no value at all.
-/

namespace DocScan.Settings

structure Search where
  start : Text := "SCHEMASCAN_".toList
  /-- Capitals count in names. -/
  exact : Bool := false
  /-- Empty values do not count. -/
  skipEmpty : Bool := false
  /-- The text that stands for no value. -/
  absent : Option Text := none
deriving DecidableEq, Repr

namespace Search

/-- A name without capitals. Only the letters of ASCII matter in the names of settings. -/
def lowered (name : Text) : Text := name.map Char.toLower

def spell (search : Search) (name : Text) : Text := if search.exact then name else lowered name

def variableName (search : Search) (name : Text) : Text := search.spell (search.start ++ name)

def first? {α : Type} (search : Search) (named : List (Text × α)) (name : Text) : Option α :=
  (named.find? fun entry => search.spell entry.1 == name).map Prod.snd

def last? {α : Type} (search : Search) (named : List (Text × α)) (name : Text) : Option α :=
  search.first? named.reverse name

theorem last?_eq_none_iff {α : Type} (search : Search) (named : List (Text × α)) (name : Text) :
    search.last? named name = none ↔ ∀ entry ∈ named, search.spell entry.1 ≠ name := by
  simp [last?, first?]

def counts (search : Search) (text : Text) : Bool := !(search.skipEmpty && text.isEmpty)

theorem counts_of_not_skipping (search : Search) (text : Text)
    (kept : search.skipEmpty = false) : search.counts text = true := by
  simp [counts, kept]

def meaning (search : Search) (text : Text) : Json.Value :=
  if search.absent = some text then .null else .text text

def inEnvironment? (search : Search) (environment : Environment) (name : Text) :
    Option Json.Value :=
  let counted := environment.filter fun entry => search.counts entry.2
  (search.last? counted (search.variableName name)).map search.meaning

/-- The value for a setting of some name that a file binds. What is bound to nothing is not given.
-/
def inFile? (search : Search) (file : List (Text × Option Text)) (name : Text) :
    Option Json.Value :=
  let counted := file.filter fun entry => entry.2.all search.counts
  ((search.last? counted (search.variableName name)).join).map search.meaning

end Search

end DocScan.Settings
