import DocScan.Json.Numeral

/-!
# Reading JSON

The reader goes over a text one character at a time. Its state is the word or string in progress,
the containers that are open, and what has to come next; every character takes one step. A name that
occurs again in an object takes the later value. Reading stops at the first character that fits
nowhere, and the refusal says where that is.
-/

namespace DocScan.Json

/-! ## The state of the reader -/

/-- How large a text may grow; what is not limited may have any size. -/
structure Limits where
  /-- The number of containers inside each other, the innermost of which is not empty. -/
  depth : Option Nat := none
  /-- The number of characters in the whole part of a number, its sign included. -/
  wholePart : Option Nat := none

def isBeyond (limit : Option Nat) (size : Nat) : Bool := limit.any (· < size)

/-- The constant, number or string in progress; the characters of a string are kept in reverse. -/
inductive Pending where
  | nothing
  | constant (letter : Char) (letters : Text) (value : Value)
  | numeral (numeral : Numeral)
  | text (reversed : Text)
  | escape (reversed : Text)
  | unit (reversed : Text) (lead : Option Nat) (digits : Nat) (value : Nat)
  | trail (reversed : Text) (lead : Nat)
  | trailEscape (reversed : Text) (lead : Nat)

/-- An open container: the items of an array in reverse, or the members of an object and the name
whose value comes next or came last. -/
inductive Frame where
  | array (reversed : List Value)
  | object (members : Members) (name : Text)

inductive Goal where
  | value
  | valueOrEnd
  | name
  | nameOrEnd
  | colon
  | more
  | done (value : Value)

structure State where
  pending : Pending
  frames : List Frame
  goal : Goal

def start : State := { pending := .nothing, frames := [], goal := .value }

/-! ## Values and marks -/

def isSpace (c : Char) : Bool := c == ' ' || c == '\n' || c == '\r' || c == '\t'

def deliver (value : Value) : List Frame → State
  | [] => { pending := .nothing, frames := [], goal := .done value }
  | .array reversed :: frames =>
    { pending := .nothing, frames := .array (value :: reversed) :: frames, goal := .more }
  | .object members name :: frames =>
    { pending := .nothing, frames := .object (members.insert name value) name :: frames
      goal := .more }

def State.takeText (state : State) (content : Text) : State :=
  match state.goal, state.frames with
  | .name, .object members _ :: frames | .nameOrEnd, .object members _ :: frames =>
    { pending := .nothing, frames := .object members content :: frames, goal := .colon }
  | _, frames => deliver (.text content) frames

def constant? (c : Char) : Option (Text × Value) :=
  match c with
  | 'n' => some ("ull".toList, .null)
  | 't' => some ("rue".toList, .bool true)
  | 'f' => some ("alse".toList, .bool false)
  | 'N' => some ("aN".toList, .float .undefined)
  | 'I' => some ("nfinity".toList, .float (.infinite false))
  | _ => none

def State.spell (state : State) (value : Value) : Text → State
  | [] => deliver value state.frames
  | letter :: letters => { state with pending := .constant letter letters value }

def State.begin (limits : Limits) (state : State) (c : Char) : Except Fault State :=
  if isBeyond limits.depth state.frames.length then .error .tooDeep
  else match c with
    | '"' => .ok { state with pending := .text [] }
    | '[' => .ok { pending := .nothing, frames := .array [] :: state.frames, goal := .valueOrEnd }
    | '{' =>
      .ok { pending := .nothing, frames := .object [] [] :: state.frames, goal := .nameOrEnd }
    | c =>
      match Numeral.start? c, constant? c with
      | some numeral, _ => .ok { state with pending := .numeral numeral }
      | none, some (letters, value) => .ok (state.spell value letters)
      | none, none => .error .noValue

def State.beginName (state : State) (c : Char) : Except Fault State :=
  if c = '"' then .ok { state with pending := .text [] } else .error .bareName

def State.mark (limits : Limits) (state : State) (c : Char) : Except Fault State :=
  match state.goal, state.frames with
  | .value, .array _ :: _ => if c = ']' then .error .trailingComma else state.begin limits c
  | .value, _ => state.begin limits c
  | .valueOrEnd, .array reversed :: frames =>
    if c = ']' then .ok (deliver (.array reversed.reverse) frames) else state.begin limits c
  | .valueOrEnd, _ => state.begin limits c
  | .name, _ => if c = '}' then .error .trailingComma else state.beginName c
  | .nameOrEnd, .object members _ :: frames =>
    if c = '}' then .ok (deliver (.object members) frames) else state.beginName c
  | .nameOrEnd, _ => state.beginName c
  | .colon, _ => if c = ':' then .ok { state with goal := .value } else .error .noColon
  | .more, .array reversed :: frames =>
    if c = ',' then .ok { state with goal := .value }
    else if c = ']' then .ok (deliver (.array reversed.reverse) frames)
    else .error .noItemMark
  | .more, .object members _ :: frames =>
    if c = ',' then .ok { state with goal := .name }
    else if c = '}' then .ok (deliver (.object members) frames)
    else .error .noMemberMark
  | .more, [] | .done _, _ => .error .trailingText

def State.between (limits : Limits) (state : State) (c : Char) : Except Fault State :=
  if isSpace c then .ok state else state.mark limits c

/-! ## Strings -/

def shortEscape? (c : Char) : Option Char :=
  match c with
  | '"' | '\\' | '/' => some c
  | 'b' => some (Char.ofNat 8)
  | 'f' => some (Char.ofNat 12)
  | 'n' => some '\n'
  | 'r' => some '\r'
  | 't' => some '\t'
  | _ => none

def hexDigit? (c : Char) : Option Nat :=
  if c.isDigit then some (c.toNat - '0'.toNat)
  else if 'a' ≤ c ∧ c ≤ 'f' then some (c.toNat - 'a'.toNat + 10)
  else if 'A' ≤ c ∧ c ≤ 'F' then some (c.toNat - 'A'.toNat + 10)
  else none

/-- A complete code unit: a character, the lead of a pair or the trail that completes it. -/
def endUnit (reversed : Text) (lead : Option Nat) (unit : Nat) : Except Fault Pending :=
  match lead with
  | some lead =>
    if 0xDC00 ≤ unit ∧ unit ≤ 0xDFFF then
      .ok (.text (Char.ofNat (0x10000 + (lead - 0xD800) * 0x400 + (unit - 0xDC00)) :: reversed))
    else .error .loneSurrogate
  | none =>
    if 0xD800 ≤ unit ∧ unit ≤ 0xDBFF then .ok (.trail reversed unit)
    else if 0xDC00 ≤ unit ∧ unit ≤ 0xDFFF then .error .loneSurrogate
    else .ok (.text (Char.ofNat unit :: reversed))

def nextDigit (reversed : Text) (lead : Option Nat) (digits value : Nat) (c : Char) :
    Except Fault Pending :=
  match hexDigit? c with
  | none => .error .badEscape
  | some digit =>
    if digits = 3 then endUnit reversed lead (16 * value + digit)
    else .ok (.unit reversed lead (digits + 1) (16 * value + digit))

/-! ## Steps -/

def step (limits : Limits) (state : State) (c : Char) : Except Fault State :=
  match state.pending with
  | .nothing => state.between limits c
  | .constant letter letters value =>
    if c = letter then .ok (state.spell value letters) else .error .misspelled
  | .numeral numeral =>
    if isBeyond limits.wholePart numeral.size then .error .longNumber
    else if numeral.phase = .sign ∧ c = 'I' then
      .ok (state.spell (.float (.infinite true)) "nfinity".toList)
    else match numeral.next c with
      | .error fault => .error fault
      | .ok (some numeral) => .ok { state with pending := .numeral numeral }
      | .ok none => (deliver numeral.value state.frames).between limits c
  | .text reversed =>
    if c = '"' then .ok (state.takeText reversed.reverse)
    else if c = '\\' then .ok { state with pending := .escape reversed }
    else if c.toNat < 0x20 then .error .bareControl
    else .ok { state with pending := .text (c :: reversed) }
  | .escape reversed =>
    if c = 'u' then .ok { state with pending := .unit reversed none 0 0 }
    else match shortEscape? c with
      | some meant => .ok { state with pending := .text (meant :: reversed) }
      | none => .error .badEscape
  | .unit reversed lead digits value =>
    (nextDigit reversed lead digits value c).map fun pending => { state with pending }
  | .trail reversed lead =>
    if c = '\\' then .ok { state with pending := .trailEscape reversed lead } else .error .openPair
  | .trailEscape reversed lead =>
    if c = 'u' then .ok { state with pending := .unit reversed (some lead) 0 0 }
    else .error .openPair

/-- Where reading stopped: the state there, what is wrong, and the characters that are left. -/
structure Stop where
  state : State
  fault : Fault
  rest : Text

def advance (limits : Limits) (state : State) : Text → Except Stop State
  | [] => .ok state
  | c :: rest =>
    match step limits state c with
    | .ok next => advance limits next rest
    | .error fault => .error { state, fault, rest := c :: rest }

/-! ## Documents -/

/-- The state once the text has ended: a number may end with it. -/
def State.settle (limits : Limits) (state : State) : Except Fault State :=
  match state.pending with
  | .nothing => .ok state
  | .constant _ _ _ => .error .openValue
  | .numeral numeral =>
    if isBeyond limits.wholePart numeral.size then .error .longNumber
    else if numeral.isComplete then .ok (deliver numeral.value state.frames)
    else .error .openValue
  | _ => .error .openText

def State.result (limits : Limits) (state : State) : Except Fault Value := do
  let state ← state.settle limits
  match state.goal, state.frames with
  | .done value, _ => .ok value
  | .value, _ | .name, _ => .error .openValue
  | .valueOrEnd, _ | .more, .array _ :: _ | .more, [] => .error .openArray
  | .nameOrEnd, _ | .colon, _ | .more, .object _ _ :: _ => .error .openObject

/-- What a stop amounts to: the fault and the characters from there on. The four octets of a code
unit have to be there before they are judged. -/
def Stop.verdict (stop : Stop) : Fault × Text :=
  match stop.state.pending with
  | .unit _ _ digits _ =>
    if digits + Text.octets stop.rest < 4 then (.openText, []) else (stop.fault, stop.rest)
  | _ => (stop.fault, stop.rest)

def Refusal.ofRest (text : Text) (fault : Fault) (rest : Text) : Refusal :=
  { fault, place := .ofSplit (text.take (text.length - rest.length)) rest }

/-- The value that a text spells, or why it is not JSON. -/
def read (text : Text) (limits : Limits := {}) : Except Refusal Value :=
  match advance limits start text with
  | .ok state => (state.result limits).mapError fun fault => .ofRest text fault []
  | .error stop => .error (.ofRest text stop.verdict.1 stop.verdict.2)

end DocScan.Json
