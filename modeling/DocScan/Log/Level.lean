import DocScan.Text.Blank
import DocScan.Text.Upper

/-!
# Log levels

The six levels, their names and their numbers. Settings accept the six names; the log itself knows
two of the levels under a second name as well.
-/

namespace DocScan.Log

inductive Level where
  | critical
  | error
  | warning
  | info
  | debug
  | notSet
deriving DecidableEq, Repr

namespace Level

/-- The levels from the gravest to the one that lets everything through. -/
def all : List Level := [critical, error, warning, info, debug, notSet]

def name : Level → Text
  | critical => "CRITICAL".toList
  | error => "ERROR".toList
  | warning => "WARNING".toList
  | info => "INFO".toList
  | debug => "DEBUG".toList
  | notSet => "NOTSET".toList

/-- The number of a level; graver levels have larger ones. -/
def number : Level → Int
  | critical => 50
  | error => 40
  | warning => 30
  | info => 20
  | debug => 10
  | notSet => 0

def names : List Text := all.map name

def ofName? (given : Text) : Option Level := all.find? fun level => level.name == given

def aliases : List (Text × Level) := [("WARN".toList, warning), ("FATAL".toList, critical)]

def ofAnyName? (given : Text) : Option Level := (ofName? given).or (aliases.lookup given)

def ofNumber? (given : Int) : Option Level := all.find? fun level => level.number == given

def nameOfNumber (number : Int) : Text :=
  match ofNumber? number with
  | some level => level.name
  | none => "Level ".toList ++ Text.ofInt number

theorem ofName?_name (level : Level) : ofName? level.name = some level := by
  cases level <;> decide

theorem ofAnyName?_of_ofName? {given : Text} {level : Level} (found : ofName? given = some level) :
    ofAnyName? given = some level := by
  simp [ofAnyName?, found]

theorem number_ofNumber? (level : Level) : nameOfNumber level.number = level.name := by
  cases level <;> rfl

/-! ## Names as they are given -/

/-- The level that a setting names: blanks around the name and the case of its letters do not
matter. -/
def ofSetting? (given : Text) : Option Level := ofName? (Text.upper (Text.trim given))

end Level

end DocScan.Log
