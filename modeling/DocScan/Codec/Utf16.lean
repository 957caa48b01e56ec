import DocScan.Codec.Fault

/-!
# UTF-16

Code units of two octets in either order. A character above the basic plane is two units, a leading
and a trailing surrogate; neither may stand alone.
-/

namespace DocScan.Codec.Utf16

inductive Order where
  | littleEndian
  | bigEndian
deriving DecidableEq, Repr

def Order.name : Order → Text
  | .littleEndian => "utf-16-le".toList
  | .bigEndian => "utf-16-be".toList

def Order.unit : Order → UInt8 → UInt8 → Nat
  | .littleEndian, first, second => second.toNat * 0x100 + first.toNat
  | .bigEndian, first, second => first.toNat * 0x100 + second.toNat

structure Half where
  position : Nat
  octet : UInt8
deriving DecidableEq, Repr

/-- A leading surrogate: its first octet and its value. -/
structure Lead where
  half : Half
  value : Nat
deriving DecidableEq, Repr

/-- The state between two octets: the position of the next one, the characters so far in reverse,
the unit in progress, and the leading surrogate that waits for its trail. -/
structure State where
  position : Nat := 0
  reversed : Text := []
  half : Option Half := none
  lead : Option Lead := none
deriving DecidableEq, Repr

def Half.fault (order : Order) (half : Half) (last : Nat) (reason : Reason) : Fault :=
  { encoding := order.name, first := half.position, last, octet := half.octet, reason }

def State.takeUnit (order : Order) (state : State) (half : Half) (unit : Nat) :
    Except Fault State :=
  let position := state.position + 1
  match state.lead with
  | some lead =>
    if 0xDC00 ≤ unit ∧ unit ≤ 0xDFFF then
      let value := 0x10000 + (lead.value - 0xD800) * 0x400 + (unit - 0xDC00)
      .ok { position, reversed := Char.ofNat value :: state.reversed }
    else .error (lead.half.fault order (lead.half.position + 1) .loneLead)
  | none =>
    if 0xD800 ≤ unit ∧ unit ≤ 0xDBFF then
      .ok { position, reversed := state.reversed, lead := some { half, value := unit } }
    else if 0xDC00 ≤ unit ∧ unit ≤ 0xDFFF then
      .error (half.fault order state.position .loneTrail)
    else .ok { position, reversed := Char.ofNat unit :: state.reversed }

def step (order : Order) (state : State) (octet : UInt8) : Except Fault State :=
  match state.half with
  | none =>
    .ok
      { state with
        position := state.position + 1
        half := some { position := state.position, octet } }
  | some half => state.takeUnit order half (order.unit half.octet octet)

def State.finish (order : Order) (state : State) : Except Fault Text :=
  match state.lead, state.half with
  | some lead, _ => .error (lead.half.fault order (state.position - 1) .unexpectedEnd)
  | none, some half => .error (half.fault order half.position .truncated)
  | none, none => .ok state.reversed.reverse

def decodeFrom (order : Order) (position : Nat) (octets : Bytes) : Except Fault Text := do
  (← octets.foldlM (step order) { position }).finish order

/-- The text that some octets spell in a fixed order. A mark at the start is a character. -/
def decode (order : Order) (octets : Bytes) : Except Fault Text := decodeFrom order 0 octets

/-- The text that some octets spell in the order that a mark at the start announces. Without a mark
the low octet comes first. -/
def decodeMarked : Bytes → Except Fault Text
  | 0xFF :: 0xFE :: octets => decodeFrom .littleEndian 2 octets
  | 0xFE :: 0xFF :: octets => decodeFrom .bigEndian 2 octets
  | octets => decode .littleEndian octets

end DocScan.Codec.Utf16
