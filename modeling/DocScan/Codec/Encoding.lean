import DocScan.Codec.Utf16
import DocScan.Codec.Utf8

/-!
# Encodings

The encodings that an input may have, the names they go by, and decoding. Case and punctuation do
not matter in a name.
-/

namespace DocScan

inductive Encoding where
  | utf8
  /-- UTF-8 that may start with a mark. -/
  | utf8Marked
  /-- UTF-16 whose order is announced by a mark. -/
  | utf16
  | utf16Little
  | utf16Big
  | ascii
  | latin1
deriving DecidableEq, Repr

namespace Encoding

/-! ## Names -/

def all : List Encoding := [utf8, utf8Marked, utf16, utf16Little, utf16Big, ascii, latin1]

def name : Encoding → Text
  | utf8 => "utf_8".toList
  | utf8Marked => "utf_8_sig".toList
  | utf16 => "utf_16".toList
  | utf16Little => "utf_16_le".toList
  | utf16Big => "utf_16_be".toList
  | ascii => "ascii".toList
  | latin1 => "latin_1".toList

/-- Other names of an encoding, in normal form. -/
def aliases : Encoding → List Text
  | utf8 =>
    ["u8".toList, "utf".toList, "utf8".toList, "utf8_ucs2".toList, "utf8_ucs4".toList,
     "cp65001".toList]
  | utf8Marked => []
  | utf16 => ["u16".toList, "utf16".toList]
  | utf16Little => ["unicodelittleunmarked".toList, "utf_16le".toList]
  | utf16Big => ["unicodebigunmarked".toList, "utf_16be".toList]
  | ascii =>
    ["646".toList, "ansi_x3.4_1968".toList, "ansi_x3_4_1968".toList, "ansi_x3.4_1986".toList,
     "cp367".toList, "csascii".toList, "ibm367".toList, "iso646_us".toList,
     "iso_646.irv_1991".toList, "iso_ir_6".toList, "us".toList, "us_ascii".toList]
  | latin1 =>
    ["8859".toList, "cp819".toList, "csisolatin1".toList, "ibm819".toList, "iso8859".toList,
     "iso8859_1".toList, "iso_8859_1".toList, "iso_8859_1_1987".toList, "iso_ir_100".toList,
     "l1".toList, "latin".toList, "latin1".toList]

/-- The normal form of a name after some punctuation, or not: letters and digits of ASCII in lower
case and points, and one low line for every other run between them. -/
def normalAfter (punctuated : Bool) : Text → Text
  | [] => []
  | c :: rest =>
    if c.isAlphanum || c == '.' then
      let tail := c.toLower :: normalAfter false rest
      if punctuated then '_' :: tail else tail
    else normalAfter true rest

def normalName (name : Text) : Text :=
  normalAfter false (name.dropWhile fun c => !(c.isAlphanum || c == '.'))

/-- The encoding of that name. Points count as low lines in other names. A zero character stands in
no name. -/
def ofName? (given : Text) : Option Encoding :=
  let normal := normalName given
  let pointless := normal.map fun c => if c = '.' then '_' else c
  if Char.ofNat 0 ∈ given then none
  else
    all.find? fun encoding =>
      encoding.name == normal || encoding.aliases.contains normal ||
        encoding.aliases.contains pointless

/-- Names, in normal form, of codings that turn octets into octets. None of them is an encoding of
texts. -/
def transforms : List Text :=
  ["base64".toList, "base_64".toList, "base64_codec".toList, "bz2".toList, "bz2_codec".toList,
   "hex".toList, "hex_codec".toList, "quopri".toList, "quoted_printable".toList,
   "quotedprintable".toList, "quopri_codec".toList, "rot13".toList, "rot_13".toList,
   "uu".toList, "uu_codec".toList, "zip".toList, "zlib".toList, "zlib_codec".toList]

/-- The wording for a name that no encoding has. What serves codings of octets is named. -/
def absence (given use : Text) : Text :=
  if transforms.contains (normalName given) then
    ['\''] ++ given ++ "' is not a text encoding; use ".toList ++ use ++
      " to handle arbitrary codecs".toList
  else "unknown encoding: ".toList ++ given

theorem ofName?_name (encoding : Encoding) : ofName? encoding.name = some encoding := by
  cases encoding <;> decide

/-! ## Decoding -/

def decodeLatin1 (octets : Bytes) : Text := octets.map fun octet => Char.ofNat octet.toNat

def decodeAscii (octets : Bytes) : Except Codec.Fault Text :=
  match octets.findIdx? (0x80 ≤ ·) with
  | none => .ok (decodeLatin1 octets)
  | some position =>
    .error
      { encoding := ascii.name, first := position, last := position
        octet := octets[position]?.getD 0, reason := .outOfRange }

/-- The text that some octets of UTF-8 spell without the mark at their start. Positions are counted
behind the mark. -/
def decodeUtf8Marked : Bytes → Except Codec.Fault Text
  | 0xEF :: 0xBB :: 0xBF :: octets => Codec.Utf8.decode octets
  | octets => Codec.Utf8.decode octets

def decode : Encoding → Bytes → Except Codec.Fault Text
  | utf8, octets => Codec.Utf8.decode octets
  | utf8Marked, octets => decodeUtf8Marked octets
  | utf16, octets => Codec.Utf16.decodeMarked octets
  | utf16Little, octets => Codec.Utf16.decode .littleEndian octets
  | utf16Big, octets => Codec.Utf16.decode .bigEndian octets
  | ascii, octets => decodeAscii octets
  | latin1, octets => .ok (decodeLatin1 octets)

def codec (encoding : Encoding) : Codec := fun octets =>
  (encoding.decode octets).mapError .undecodable

def codecs : Codecs := fun name => (ofName? name).map codec

theorem decode_nil (encoding : Encoding) : encoding.decode [] = .ok [] := by
  cases encoding <;> rfl

end Encoding

end DocScan
