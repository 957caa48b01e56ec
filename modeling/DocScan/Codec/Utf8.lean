import DocScan.Codec.Fault

/-!
# UTF-8

A character is one to four octets: a lead octet settles how many follow and narrows the second one,
so that no character has two spellings and no surrogate has any. Decoding takes the octets one at a
time.
-/

namespace DocScan.Codec.Utf8

def name : Text := "utf-8".toList

/-- A character in progress: where it started, the value of the octets so far, how many are still
owed, and the range of the next one. -/
structure Sequence where
  start : Nat
  lead : UInt8
  value : Nat
  owed : Nat
  low : Nat := 0x80
  high : Nat := 0xBF
deriving DecidableEq, Repr

/-- The state between two octets: the position of the next one, the characters so far in reverse,
and the character in progress. -/
structure State where
  position : Nat := 0
  reversed : Text := []
  sequence : Option Sequence := none
deriving DecidableEq, Repr

def Sequence.ofLead? (start : Nat) (lead : UInt8) : Option Sequence :=
  let octet := lead.toNat
  if octet < 0xC2 then none
  else if octet < 0xE0 then some { start, lead, value := octet - 0xC0, owed := 1 }
  else if octet < 0xF0 then
    some
      { start, lead, value := octet - 0xE0, owed := 2
        low := if octet = 0xE0 then 0xA0 else 0x80
        high := if octet = 0xED then 0x9F else 0xBF }
  else if octet < 0xF5 then
    some
      { start, lead, value := octet - 0xF0, owed := 3
        low := if octet = 0xF0 then 0x90 else 0x80
        high := if octet = 0xF4 then 0x8F else 0xBF }
  else none

def Sequence.fault (sequence : Sequence) (position : Nat) (reason : Reason) : Fault :=
  { encoding := name, first := sequence.start, last := position - 1
    octet := sequence.lead, reason }

def step (state : State) (octet : UInt8) : Except Fault State :=
  let position := state.position + 1
  match state.sequence with
  | none =>
    if octet.toNat < 0x80 then
      .ok { position, reversed := Char.ofNat octet.toNat :: state.reversed }
    else match Sequence.ofLead? state.position octet with
      | some sequence => .ok { position, reversed := state.reversed, sequence := some sequence }
      | none =>
        .error
          { encoding := name, first := state.position, last := state.position, octet
            reason := .invalidStart }
  | some sequence =>
    if octet.toNat < sequence.low ∨ sequence.high < octet.toNat then
      .error (sequence.fault state.position .invalidContinuation)
    else
      let value := sequence.value * 0x40 + (octet.toNat - 0x80)
      if sequence.owed ≤ 1 then .ok { position, reversed := Char.ofNat value :: state.reversed }
      else
        .ok
          { position, reversed := state.reversed
            sequence := some
              { start := sequence.start, lead := sequence.lead, value, owed := sequence.owed - 1 } }

def State.finish (state : State) : Except Fault Text :=
  match state.sequence with
  | none => .ok state.reversed.reverse
  | some sequence => .error (sequence.fault state.position .unexpectedEnd)

def decode (octets : Bytes) : Except Fault Text := do (← octets.foldlM step {}).finish

theorem decode_eq_fold (octets : Bytes) :
    decode octets = (octets.foldlM step {}).bind State.finish := rfl

end DocScan.Codec.Utf8
