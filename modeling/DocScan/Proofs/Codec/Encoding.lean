import DocScan.Codec.Encoding
import DocScan.Proofs.Codec.Utf16

/-!
# What octets spell

In every encoding the octets of a text are settled character by character, a mark at the start
aside. Decoding accounts for all of them: it gives a text exactly when the octets are those of the
text, from the first to the last.
-/

namespace DocScan.Encoding

/-- Each octet is the code of its character. -/
def Codes (text : Text) (octets : Bytes) : Prop := octets.map UInt8.toNat = text.map Char.toNat

def utf8Mark : Bytes := [0xEF, 0xBB, 0xBF]

def littleMark : Bytes := [0xFF, 0xFE]

def bigMark : Bytes := [0xFE, 0xFF]

/-- The octets are those of the text in the encoding, from the first to the last. -/
def Spells : Encoding → Text → Bytes → Prop
  | utf8, text, octets => octets = Codec.Utf8.encode text
  | utf8Marked, text, octets =>
    octets = utf8Mark ++ Codec.Utf8.encode text ∨
      ¬ utf8Mark <+: octets ∧ octets = Codec.Utf8.encode text
  | utf16, text, octets =>
    octets = littleMark ++ Codec.Utf16.encode .littleEndian text ∨
      octets = bigMark ++ Codec.Utf16.encode .bigEndian text ∨
      ¬ littleMark <+: octets ∧ ¬ bigMark <+: octets ∧
        octets = Codec.Utf16.encode .littleEndian text
  | utf16Little, text, octets => octets = Codec.Utf16.encode .littleEndian text
  | utf16Big, text, octets => octets = Codec.Utf16.encode .bigEndian text
  | ascii, text, octets => Codes text octets ∧ ∀ c ∈ text, c.toNat < 0x80
  | latin1, text, octets => Codes text octets

/-! ## One octet a character -/

theorem decodeLatin1_eq_iff (octets : Bytes) (text : Text) :
    decodeLatin1 octets = text ↔ Codes text octets := by
  unfold decodeLatin1 Codes
  constructor
  · rintro rfl
    rw [List.map_map]
    refine List.map_congr_left fun octet _ => ?_
    have small := octet.toNat_lt
    exact (Codec.toNat_ofNat (.inl (by omega))).symm
  · intro codes
    have back := congrArg (List.map Char.ofNat) codes
    simpa [Function.comp_def] using back

theorem Codes.ascii_iff {octets : Bytes} {text : Text} (codes : Codes text octets) :
    (∀ octet ∈ octets, octet.toNat < 0x80) ↔ ∀ c ∈ text, c.toNat < 0x80 := by
  have every := congrArg (fun codes => ∀ code ∈ codes, code < 0x80) codes
  simpa only [List.forall_mem_map] using every.to_iff

theorem decodeAscii_eq_ok_iff (octets : Bytes) (text : Text) :
    decodeAscii octets = .ok text ↔ Codes text octets ∧ ∀ c ∈ text, c.toNat < 0x80 := by
  have ascii_iff : octets.findIdx? (0x80 ≤ ·) = none ↔ ∀ octet ∈ octets, octet.toNat < 0x80 := by
    simp [List.findIdx?_eq_none_iff, UInt8.lt_iff_toNat_lt]
  unfold decodeAscii
  cases found : octets.findIdx? (0x80 ≤ ·) with
  | none =>
      have low := ascii_iff.mp found
      rw [Except.ok.injEq, decodeLatin1_eq_iff]
      exact ⟨fun codes => ⟨codes, codes.ascii_iff.mp low⟩, And.left⟩
  | some position =>
      refine iff_of_false nofun fun ⟨codes, low⟩ => ?_
      rw [ascii_iff.mpr (codes.ascii_iff.mpr low)] at found
      cases found

/-! ## Marks -/

theorem ne_append_of_unmarked {mark octets : Bytes} (unmarked : ¬ mark <+: octets)
    (rest : Bytes) : octets ≠ mark ++ rest := by
  rintro rfl
  exact unmarked (List.prefix_append mark rest)

theorem decodeUtf8Marked_eq_ok_iff (octets : Bytes) (text : Text) :
    decodeUtf8Marked octets = .ok text ↔ utf8Marked.Spells text octets := by
  unfold decodeUtf8Marked Spells
  split
  case h_1 rest => simp [Codec.Utf8.decode_eq_ok_iff, utf8Mark]
  case h_2 others =>
    have unmarked : ¬ utf8Mark <+: octets := fun ⟨rest, same⟩ => others rest same.symm
    simp [Codec.Utf8.decode_eq_ok_iff, unmarked, ne_append_of_unmarked unmarked]

theorem decodeMarked_eq_ok_iff (octets : Bytes) (text : Text) :
    Codec.Utf16.decodeMarked octets = .ok text ↔ utf16.Spells text octets := by
  unfold Codec.Utf16.decodeMarked Spells
  split
  case h_1 rest => simp [Codec.Utf16.decodeFrom_eq_ok_iff, littleMark, bigMark]
  case h_2 rest => simp [Codec.Utf16.decodeFrom_eq_ok_iff, littleMark, bigMark]
  case h_3 noLittle noBig =>
    have notLittle : ¬ littleMark <+: octets := fun ⟨rest, same⟩ => noLittle rest same.symm
    have notBig : ¬ bigMark <+: octets := fun ⟨rest, same⟩ => noBig rest same.symm
    simp [Codec.Utf16.decode, Codec.Utf16.decodeFrom_eq_ok_iff, notLittle, notBig,
      ne_append_of_unmarked notLittle, ne_append_of_unmarked notBig]

theorem decode_eq_ok_iff (encoding : Encoding) (octets : Bytes) (text : Text) :
    encoding.decode octets = .ok text ↔ encoding.Spells text octets := by
  cases encoding with
  | utf8 => exact Codec.Utf8.decode_eq_ok_iff octets text
  | utf8Marked => exact decodeUtf8Marked_eq_ok_iff octets text
  | utf16 => exact decodeMarked_eq_ok_iff octets text
  | utf16Little => exact Codec.Utf16.decodeFrom_eq_ok_iff .littleEndian 0 octets text
  | utf16Big => exact Codec.Utf16.decodeFrom_eq_ok_iff .bigEndian 0 octets text
  | ascii => exact decodeAscii_eq_ok_iff octets text
  | latin1 => exact (Except.ok.injEq _ _).to_iff.trans (decodeLatin1_eq_iff octets text)

end DocScan.Encoding
