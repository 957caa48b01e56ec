import DocScan.Json.Fault
import DocScan.Json.Value

/-!
# Numerals

A number in a JSON text is read one character at a time. The phase says what has been read last and
so what may follow; the digits are collected as numbers on the way.
-/

namespace DocScan.Json

inductive Phase where
  | sign
  | zero
  | whole
  | point
  | fraction
  | letter
  | powerSign
  | power
deriving DecidableEq, Repr

structure Numeral where
  phase : Phase
  negative : Bool := false
  /-- The number of characters of the sign and the whole part. -/
  size : Nat := 1
  /-- The digits of the whole part and the fraction. -/
  digits : Nat := 0
  /-- The number of digits of the fraction. -/
  places : Nat := 0
  powerNegative : Bool := false
  power : Nat := 0
deriving DecidableEq, Repr

namespace Numeral

def digitValue (c : Char) : Nat := c.toNat - '0'.toNat

def start? (c : Char) : Option Numeral :=
  if c = '-' then some { phase := .sign, negative := true }
  else if c = '0' then some { phase := .zero }
  else if c.isDigit then some { phase := .whole, digits := digitValue c }
  else none

/-- One more digit of the whole part. The first one may be a zero. -/
def pushWhole (numeral : Numeral) (c : Char) : Numeral :=
  { numeral with
    phase := if numeral.phase = .sign ∧ c = '0' then .zero else .whole
    size := numeral.size + 1
    digits := 10 * numeral.digits + digitValue c }

def pushPlace (numeral : Numeral) (c : Char) : Numeral :=
  { numeral with
    phase := .fraction
    digits := 10 * numeral.digits + digitValue c
    places := numeral.places + 1 }

def pushPower (numeral : Numeral) (c : Char) : Numeral :=
  { numeral with phase := .power, power := 10 * numeral.power + digitValue c }

def isLetter (c : Char) : Bool := c == 'e' || c == 'E'

def afterWhole (numeral : Numeral) (c : Char) : Option Numeral :=
  if c = '.' then some { numeral with phase := .point }
  else if isLetter c then some { numeral with phase := .letter }
  else none

/-- The number with one more character; nothing if the number is over in front of it. -/
def next (numeral : Numeral) (c : Char) : Except Fault (Option Numeral) :=
  match numeral.phase with
  | .sign => if c.isDigit then .ok (some (numeral.pushWhole c)) else .error .badNumber
  | .zero => if c.isDigit then .error .badNumber else .ok (numeral.afterWhole c)
  | .whole => .ok (if c.isDigit then some (numeral.pushWhole c) else numeral.afterWhole c)
  | .point => if c.isDigit then .ok (some (numeral.pushPlace c)) else .error .badNumber
  | .fraction =>
    if c.isDigit then .ok (some (numeral.pushPlace c))
    else .ok (if isLetter c then some { numeral with phase := .letter } else none)
  | .letter =>
    if c.isDigit then .ok (some (numeral.pushPower c))
    else if c = '-' ∨ c = '+' then
      .ok (some { numeral with phase := .powerSign, powerNegative := c = '-' })
    else .error .badNumber
  | .powerSign => if c.isDigit then .ok (some (numeral.pushPower c)) else .error .badNumber
  | .power => .ok (if c.isDigit then some (numeral.pushPower c) else none)

def isComplete (numeral : Numeral) : Bool :=
  match numeral.phase with
  | .zero | .whole | .fraction | .power => true
  | .sign | .point | .letter | .powerSign => false

/-- The value of the number. Without a fraction and a power it is whole. -/
def value (numeral : Numeral) : Value :=
  match numeral.phase with
  | .sign | .zero | .whole => .int (Binary64.signed numeral.negative numeral.digits)
  | _ =>
    .float (Binary64.ofDecimal numeral.negative numeral.digits
      (Binary64.signed numeral.powerNegative numeral.power - numeral.places))

theorem next_whole (numeral : Numeral) (c : Char) (inWhole : numeral.phase = .whole)
    (digit : c.isDigit = true) : numeral.next c = .ok (some (numeral.pushWhole c)) := by
  simp [next, inWhole, digit]

end Numeral

end DocScan.Json
