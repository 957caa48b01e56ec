import DocScan.Codec.Encoding

/-!
# Text files

A file is read as text in some encoding, and every line ending in it as a line feed. Reading a file
is stricter than decoding in one respect: UTF-16 has to start with the mark of its byte order.
-/

namespace DocScan.TextFile

inductive Fault where
  | undecodable (fault : Codec.Fault)
  /-- UTF-16 without the mark of its byte order. -/
  | unmarked
deriving DecidableEq, Repr

def Fault.message : Fault → Text
  | .undecodable fault => fault.message
  | .unmarked => "UTF-16 stream does not start with BOM".toList

def withLineFeeds : Text → Text
  | '\r' :: '\n' :: rest => '\n' :: withLineFeeds rest
  | '\r' :: rest => '\n' :: withLineFeeds rest
  | c :: rest => c :: withLineFeeds rest
  | [] => []

def isMarked : Bytes → Bool
  | 0xFE :: 0xFF :: _ | 0xFF :: 0xFE :: _ => true
  | _ => false

/-- The characters of a file. The beginning of the mark of UTF-8 alone is nothing. -/
def characters (encoding : Encoding) (octets : Bytes) : Except Fault Text := do
  if encoding = .utf8Marked ∧ (octets = [0xEF] ∨ octets = [0xEF, 0xBB]) then return []
  let text ← (encoding.decode octets).mapError .undecodable
  if encoding = .utf16 ∧ octets ≠ [] ∧ !isMarked octets then throw .unmarked
  return text

def read (encoding : Encoding) (octets : Bytes) : Except Fault Text :=
  (characters encoding octets).map withLineFeeds

end DocScan.TextFile
