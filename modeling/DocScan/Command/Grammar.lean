import DocScan.Text.Similar

/-!
# Words of a command line

A command line is a list of words: options, the values of options, and arguments. A long option
starts with two hyphens and may carry its value behind an equals sign; short ones start with one
hyphen and may stand together in one word. Two hyphens alone end the options, and a single hyphen is
an argument.
-/

namespace DocScan.Command

/-! ## Options -/

inductive Meaning (α : Type) where
  | plain (value : α)
  | valued (build : Text → α)

structure Switch (α : Type) where
  name : Text
  meaning : Meaning α

inductive Misuse where
  | unknown (name : Text) (similar : List Text)
  | unexpectedValue (name : Text)
  | missingValue (name : Text)
deriving DecidableEq, Repr

structure Parsed (α : Type) where
  found : List α := []
  arguments : List Text := []

structure Waiting (α : Type) where
  name : Text
  build : Text → α

/-- What a long option starts with. It also ends the options when it stands alone. -/
def longMark : Text := ['-', '-']

def isOption (word : Text) : Bool := word.head? == some '-' && 1 < word.length

def switch? {α : Type} (switches : List (Switch α)) (name : Text) : Option (Switch α) :=
  switches.find? fun switch => switch.name == name

def longNames {α : Type} (switches : List (Switch α)) : List Text :=
  (switches.map Switch.name).filter longMark.isPrefixOf

/-! ## Single words -/

abbrev Read (α : Type) := Except Misuse (List α × Option (Waiting α))

def cutValue (word : Text) : Text × Option Text :=
  match word.dropWhile (· ≠ '=') with
  | [] => (word, none)
  | _ :: value => (word.takeWhile (· ≠ '='), some value)

def readLong {α : Type} (switch : Switch α) (value : Option Text) : Read α :=
  match switch.meaning, value with
  | .plain meant, none => .ok ([meant], none)
  | .plain _, some _ => .error (.unexpectedValue switch.name)
  | .valued build, some text => .ok ([build text], none)
  | .valued build, none => .ok ([], some { name := switch.name, build })

/-- The short options of a word, one a letter. What stands behind a letter with a value is the
value. -/
def readShort {α : Type} (switches : List (Switch α)) : Text → Read α
  | [] => .ok ([], none)
  | letter :: rest =>
    match switch? switches ['-', letter] with
    | none => .error (.unknown ['-', letter] [])
    | some switch =>
      match switch.meaning with
      | .plain meant =>
        (readShort switches rest).map fun (found, waiting) => (meant :: found, waiting)
      | .valued build =>
        if rest = [] then .ok ([], some { name := switch.name, build })
        else .ok ([build rest], none)

def readWord {α : Type} (switches : List (Switch α)) (word : Text) : Read α :=
  let (name, value) := cutValue word
  match (switch? switches name).filter fun switch => longMark.isPrefixOf switch.name with
  | some switch => readLong switch value
  | none =>
    if longMark.isPrefixOf word then
      .error (.unknown name (Text.closest name (longNames switches)))
    else readShort switches word.tail

/-! ## All words -/

/-- Words behind an option that may wait for its value. Where options and arguments may not mix, the
first argument ends the options. -/
def parseAfter {α : Type} (switches : List (Switch α)) (mixed : Bool)
    (waiting : Option (Waiting α)) : List Text → Except Misuse (Parsed α)
  | [] =>
    match waiting with
    | some waiting => .error (.missingValue waiting.name)
    | none => .ok {}
  | word :: rest =>
    match waiting with
    | some waiting =>
      (parseAfter switches mixed none rest).map fun parsed =>
        { parsed with found := waiting.build word :: parsed.found }
    | none =>
      if word = longMark then .ok { arguments := rest }
      else if isOption word then
        match readWord switches word with
        | .error misuse => .error misuse
        | .ok (found, waiting) =>
          (parseAfter switches mixed waiting rest).map fun parsed =>
            { parsed with found := found ++ parsed.found }
      else if mixed then
        (parseAfter switches mixed none rest).map fun parsed =>
          { parsed with arguments := word :: parsed.arguments }
      else .ok { arguments := word :: rest }

def parse {α : Type} (switches : List (Switch α)) (mixed : Bool) (words : List Text) :
    Except Misuse (Parsed α) :=
  parseAfter switches mixed none words

end DocScan.Command
