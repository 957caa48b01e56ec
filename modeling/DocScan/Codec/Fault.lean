import DocScan.Text.Basic

/-!
# Undecodable octets

What is wrong with octets that are not text in some encoding: the octets at fault by their
positions, and the reason.
-/

namespace DocScan

abbrev Bytes := List UInt8

namespace Codec

/-- The wording of a reason. No codec ends one with a backslash. -/
structure Wording where
  text : Text
  ends : text.getLast? ≠ some '\\'
deriving DecidableEq, Repr

inductive Reason where
  | outOfRange
  | invalidStart
  | invalidContinuation
  | unexpectedEnd
  | truncated
  | loneTrail
  | loneLead
  | worded (wording : Wording)
deriving DecidableEq, Repr

def Reason.message : Reason → Text
  | .outOfRange => "ordinal not in range(128)".toList
  | .invalidStart => "invalid start byte".toList
  | .invalidContinuation => "invalid continuation byte".toList
  | .unexpectedEnd => "unexpected end of data".toList
  | .truncated => "truncated data".toList
  | .loneTrail => "illegal encoding".toList
  | .loneLead => "illegal UTF-16 surrogate".toList
  | .worded wording => wording.text

/-- Octets that are not text in an encoding: the positions of the first and the last one at fault,
and the first one itself. -/
structure Fault where
  encoding : Text
  first : Nat
  last : Nat
  octet : UInt8
  reason : Reason
deriving DecidableEq, Repr

def Fault.place (fault : Fault) : Text :=
  if fault.first = fault.last then
    "byte 0x".toList ++ Text.hex 2 fault.octet.toNat ++ " in position ".toList ++
      Text.ofNat fault.first
  else
    "bytes in position ".toList ++ Text.ofNat fault.first ++ ['-'] ++ Text.ofNat fault.last

def Fault.message (fault : Fault) : Text :=
  ['\''] ++ fault.encoding ++ "' codec can't decode ".toList ++ fault.place ++ [':', ' '] ++
    fault.reason.message

inductive Failure where
  | undecodable (fault : Fault)
  /-- The codec gives up for a reason that is not to be found in single octets. -/
  | broken (wording : Text)
deriving DecidableEq, Repr

end Codec

abbrev Codec := Bytes → Except Codec.Failure Text

abbrev Codecs := Text → Option Codec

/-- Decoding octets. No octets are no text in every encoding: the codec is not even asked. -/
def Codec.decode (codec : Codec) (octets : Bytes) : Except Failure Text :=
  if octets = [] then .ok [] else codec octets

end DocScan
