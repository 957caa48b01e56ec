import DocScan.Log.Placeholder

/-!
# Message templates

A template is a text with placeholders. A placeholder starts with a percent sign and ends with the
letter of a conversion; between them it may name its argument and say how the argument is shown. A
doubled percent sign is a plain one. Arguments are taken in order, or by name from a pool. Without
arguments a template is taken as it stands.
-/

namespace DocScan.Log.Template

/-! ## Pieces -/

/-- A number in a placeholder: written there or given by an argument. -/
inductive Size where
  | written (number : Nat)
  | argument
deriving DecidableEq, Repr

structure Draft where
  name : Option Text := none
  flags : Flags := {}
  width : Option Size := none
  precision : Option Size := none
deriving DecidableEq, Repr

inductive Piece where
  | plain (c : Char)
  | slot (draft : Draft) (conversion : Conversion)
deriving DecidableEq, Repr

inductive Part where
  | percent
  /-- The name, which holds parentheses in pairs. -/
  | name (depth : Nat) (reversed : Text)
  | flags
  | width (number : Nat)
  | widthArgument
  | point
  | precision (number : Nat)
  | precisionArgument
  /-- A letter that has no meaning. -/
  | modifier
deriving DecidableEq, Repr

/-- A template that is being read: the pieces so far in reverse, and the placeholder in progress. -/
structure Scan where
  pieces : List Piece := []
  progress : Option (Part × Draft) := none
deriving DecidableEq, Repr

namespace Scan

def goOn (scan : Scan) (part : Part) (draft : Draft) : Option Scan :=
  some { scan with progress := some (part, draft) }

def letter (scan : Scan) (draft : Draft) (c : Char) : Option Scan :=
  (Conversion.ofLetter? c).map fun conversion =>
    { pieces := .slot draft conversion :: scan.pieces }

def behindPrecision (scan : Scan) (draft : Draft) (c : Char) : Option Scan :=
  if c = 'h' ∨ c = 'l' ∨ c = 'L' then scan.goOn .modifier draft else scan.letter draft c

def behindWidth (scan : Scan) (draft : Draft) (c : Char) : Option Scan :=
  if c = '.' then scan.goOn .point { draft with precision := some (.written 0) }
  else scan.behindPrecision draft c

def behindFlags (scan : Scan) (draft : Draft) (c : Char) : Option Scan :=
  match draft.flags.add? c with
  | some flags => scan.goOn .flags { draft with flags }
  | none =>
    if c = '*' then scan.goOn .widthArgument { draft with width := some .argument }
    else if c.isDigit then
      let number := Text.natural [c]
      scan.goOn (.width number) { draft with width := some (.written number) }
    else scan.behindWidth draft c

def inName (scan : Scan) (draft : Draft) (depth : Nat) (reversed : Text) (c : Char) :
    Option Scan :=
  if c = ')' ∧ depth = 1 then scan.goOn .flags { draft with name := some reversed.reverse }
  else
    let depth := if c = ')' then depth - 1 else if c = '(' then depth + 1 else depth
    scan.goOn (.name depth (c :: reversed)) draft

def inSlot (scan : Scan) (draft : Draft) (c : Char) : Part → Option Scan
  | .percent =>
    if c = '%' then some { pieces := .plain '%' :: scan.pieces }
    else if c = '(' then scan.goOn (.name 1 []) draft
    else scan.behindFlags draft c
  | .name depth reversed => scan.inName draft depth reversed c
  | .flags => scan.behindFlags draft c
  | .width number =>
    if c.isDigit then
      let number := 10 * number + Text.natural [c]
      scan.goOn (.width number) { draft with width := some (.written number) }
    else scan.behindWidth draft c
  | .widthArgument => scan.behindWidth draft c
  | .point =>
    if c = '*' then scan.goOn .precisionArgument { draft with precision := some .argument }
    else if c.isDigit then
      let number := Text.natural [c]
      scan.goOn (.precision number) { draft with precision := some (.written number) }
    else scan.behindPrecision draft c
  | .precision number =>
    if c.isDigit then
      let number := 10 * number + Text.natural [c]
      scan.goOn (.precision number) { draft with precision := some (.written number) }
    else scan.behindPrecision draft c
  | .precisionArgument => scan.behindPrecision draft c
  | .modifier => scan.letter draft c

def step (scan : Scan) (c : Char) : Option Scan :=
  match scan.progress with
  | some (part, draft) => scan.inSlot draft c part
  | none =>
    if c = '%' then scan.goOn .percent {} else some { pieces := .plain c :: scan.pieces }

end Scan

/-- The pieces of a template. A placeholder that is unknown or does not end spoils it. -/
def pieces (template : Text) : Option (List Piece) :=
  match template.foldlM Scan.step {} with
  | some { pieces, progress := none } => some pieces.reverse
  | _ => none

/-! ## Arguments -/

/-- The arguments that are left: values in order, or a pool of named values and the one that is
taken next. -/
inductive Supply where
  | row (values : List Json.Value)
  | pool (members : Json.Members) (next : Option Json.Value)

namespace Supply

/-- A single object that is not empty is a pool, and as a whole it is the first value taken. -/
def ofArguments : List Json.Value → Supply
  | [.object (member :: members)] =>
    .pool (member :: members) (some (.object (member :: members)))
  | values => .row values

def take? : Supply → Option (Json.Value × Supply)
  | .row (value :: values) => some (value, .row values)
  | .pool members (some value) => some (value, .pool members none)
  | _ => none

def pick? (supply : Supply) : Option Text → Option Supply
  | none => some supply
  | some name =>
    match supply with
    | .pool members _ => (members.find? name).map fun value => .pool members (some value)
    | .row _ => none

/-- Every value has been taken. A pool need not be used up. -/
def isSpent : Supply → Bool
  | .row values => values.isEmpty
  | .pool _ _ => true

def size? (supply : Supply) : Option Size → Option (Option Int × Supply)
  | none => some (none, supply)
  | some (.written number) => some (some number, supply)
  | some .argument => do
    let (value, supply) ← supply.take?
    return (some (← whole? value), supply)

end Supply

/-! ## Filling -/

def maxSize : Nat := 2147483647

/-- The field that a placeholder asks for. A negative width puts the text on the left, and a
negative precision is zero. -/
def field? (flags : Flags) (width precision : Option Int) : Option Field :=
  let width := width.getD 0
  let field : Field :=
    { flags := { flags with left := flags.left || decide (width < 0) }
      width := width.natAbs
      precision := precision.map Int.toNat }
  if field.width ≤ maxSize ∧ field.precision.getD 0 ≤ maxSize then some field else none

def fillSlot (draft : Draft) (conversion : Conversion) (supply : Supply) :
    Option (Text × Supply) := do
  let supply ← supply.pick? draft.name
  let (width, supply) ← supply.size? draft.width
  let (precision, supply) ← supply.size? draft.precision
  let field ← field? draft.flags width precision
  let (value, supply) ← supply.take?
  return (← field.show? conversion value, supply)

def fillPieces : List Piece → Supply → Option (Text × Supply)
  | [], supply => some ([], supply)
  | .plain c :: rest, supply =>
    (fillPieces rest supply).map fun (text, left) => (c :: text, left)
  | .slot draft conversion :: rest, supply =>
    match fillSlot draft conversion supply with
    | some (shown, supply) =>
      (fillPieces rest supply).map fun (text, left) => (shown ++ text, left)
    | none => none

/-- A template with its placeholders replaced. There is no text when a placeholder is unknown or
lacks an argument, when a value cannot be shown as it asks, or when an argument is left over. -/
def fill (template : Text) (arguments : List Json.Value) : Option Text :=
  if arguments.isEmpty then some template
  else match (pieces template).bind (fillPieces · (.ofArguments arguments)) with
    | some (text, left) => if left.isSpent then some text else none
    | none => none

end DocScan.Log.Template
