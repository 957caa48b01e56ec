/-!
# Texts

A text is the list of its characters, each a Unicode scalar value. This module holds the operations
that the rest of the library shares: cutting a text at a mark, joining pieces, the size in octets
and numerals.
-/

namespace DocScan

abbrev Text := List Char

namespace Text

/-! ## Cutting and joining -/

/-- The pieces of a text between the occurrences of a mark. A text without the mark is one piece. -/
def split (mark : Char) : Text → List Text
  | [] => [[]]
  | c :: rest =>
    if c = mark then [] :: split mark rest
    else match split mark rest with
      | [] => [[c]]
      | piece :: pieces => (c :: piece) :: pieces

/-- The lines of a text: its pieces between line feeds. No other character ends a line. -/
def lines (text : Text) : List Text := split '\n' text

def join (mark : Text) : List Text → Text
  | [] => []
  | [piece] => piece
  | piece :: next :: pieces => piece ++ mark ++ join mark (next :: pieces)

theorem split_ne_nil (mark : Char) (text : Text) : split mark text ≠ [] := by
  cases text with
  | nil => simp [split]
  | cons c rest =>
      by_cases isMark : c = mark
      · simp [split, isMark]
      · simp only [split, isMark, if_false]
        cases split mark rest <;> simp

theorem join_cons_cons (mark : Text) (c : Char) (piece : Text) (pieces : List Text) :
    join mark ((c :: piece) :: pieces) = c :: join mark (piece :: pieces) := by
  cases pieces <;> simp [join]

theorem join_split (mark : Char) (text : Text) : join [mark] (split mark text) = text := by
  induction text with
  | nil => rfl
  | cons c rest ih =>
      have pieces := split_ne_nil mark rest
      by_cases isMark : c = mark
      · subst isMark
        simp only [split, if_true]
        cases found : split c rest with
        | nil => exact absurd found pieces
        | cons piece more => rw [found] at ih; simp [join, ih]
      · simp only [split, isMark, if_false]
        cases found : split mark rest with
        | nil => exact absurd found pieces
        | cons piece more => rw [found] at ih; simp [join_cons_cons, ih]

/-! ## Sizes -/

def octets (text : Text) : Nat := text.foldr (fun c count => c.utf8Size + count) 0

/-! ## Numerals -/

def ofNat (n : Nat) : Text := Nat.toDigits 10 n

def ofInt (n : Int) : Text :=
  if n < 0 then '-' :: ofNat n.natAbs else ofNat n.natAbs

def natural (digits : Text) : Nat :=
  digits.foldl (fun number digit => 10 * number + (digit.toNat - '0'.toNat)) 0

theorem natural_ofNat (n : Nat) : natural (ofNat n) = n := Nat.ofDigitChars_ten_toDigits

theorem ofNat_injective (left right : Nat) (same : ofNat left = ofNat right) : left = right := by
  rw [← natural_ofNat left, same, natural_ofNat]

/-- Padding on the left up to a width. A longer text stays as it is. -/
def padLeft (fill : Char) (width : Nat) (text : Text) : Text :=
  List.replicate (width - text.length) fill ++ text

/-- A number in lower-case hexadecimal with at least `width` digits. -/
def hex (width : Nat) (n : Nat) : Text := padLeft '0' width (Nat.toDigits 16 n)

end Text

end DocScan
