import DocScan.Text.Literal
import Mathlib.Algebra.Group.Nat.Defs
import Mathlib.Tactic.SplitIfs

/-!
# Literals read back

The inside of a literal is read character by character: a backslash begins an escape, whose letter
says how many digits belong to it. So a literal shows one text only.
-/

namespace DocScan.Text

/-! ## Hexadecimal numerals -/

def hexDigit (c : Char) : Nat := if c.isDigit then c.toNat - 48 else c.toNat - 87

def hexValue (digits : Text) : Nat :=
  digits.foldl (fun value digit => 16 * value + hexDigit digit) 0

theorem hexDigit_digitChar {digit : Nat} (small : digit < 16) :
    hexDigit (Nat.digitChar digit) = digit := by
  have every : ∀ digit < 16, hexDigit (Nat.digitChar digit) = digit := by decide
  exact every digit small

theorem hexValue_concat (digits : Text) (c : Char) :
    hexValue (digits ++ [c]) = 16 * hexValue digits + hexDigit c := by
  simp [hexValue]

theorem hexValue_toDigits (n : Nat) : hexValue (Nat.toDigits 16 n) = n := by
  induction n using Nat.strongRecOn with
  | ind n ih =>
      by_cases small : n < 16
      · rw [Nat.toDigits_of_lt_base small, ← List.nil_append [_], hexValue_concat,
          hexDigit_digitChar small]
        exact Nat.zero_add n
      · rw [Nat.toDigits_of_base_le (by decide) (Nat.le_of_not_lt small), hexValue_concat,
          ih (n / 16) (by omega), hexDigit_digitChar (Nat.mod_lt n (by decide))]
        omega

theorem hexValue_zeros_append (zeros : Nat) (digits : Text) :
    hexValue (List.replicate zeros '0' ++ digits) = hexValue digits := by
  induction zeros with
  | zero => rfl
  | succ zeros ih => exact ih

theorem hexValue_hex (width n : Nat) : hexValue (hex width n) = n := by
  rw [hex, padLeft, hexValue_zeros_append, hexValue_toDigits]

theorem length_hex {width n : Nat} (positive : 0 < width) (fits : n < 16 ^ width) :
    (hex width n).length = width := by
  have short := (Nat.length_toDigits_le_iff (by decide : 1 < 16) positive).mpr fits
  rw [hex, padLeft, List.length_append, List.length_replicate]
  omega

/-! ## Escapes -/

/-- The number of digits that belong to an escape with this letter. -/
def digitsBehind (letter : Char) : Nat :=
  if letter = 'x' then 2 else if letter = 'u' then 4 else if letter = 'U' then 8 else 0

def escapedChar (letter : Char) (digits : Text) : Char :=
  if letter = 'n' then '\n'
  else if letter = 'r' then '\r'
  else if letter = 't' then '\t'
  else if digitsBehind letter = 0 then letter
  else Char.ofNat (hexValue digits)

/-- The first character that the inside of a literal shows, and what follows it. -/
def nextShown? : Text → Option (Char × Text)
  | [] => none
  | c :: rest =>
    if c = '\\' then
      match rest with
      | [] => none
      | letter :: rest =>
        some (escapedChar letter (rest.take (digitsBehind letter)), rest.drop (digitsBehind letter))
    else some (c, rest)

theorem nextShown?_escape (letter : Char) {digits : Text}
    (whole : digits.length = digitsBehind letter) (rest : Text) :
    nextShown? ('\\' :: letter :: (digits ++ rest)) = some (escapedChar letter digits, rest) := by
  rw [nextShown?, if_pos rfl, ← whole, List.take_left, List.drop_left]

theorem nextShown?_numeral (letter : Char) (numeral : 0 < digitsBehind letter) (c : Char)
    (fits : c.toNat < 16 ^ digitsBehind letter) (rest : Text) :
    nextShown? ('\\' :: letter :: (hex (digitsBehind letter) c.toNat ++ rest)) =
      some (c, rest) := by
  have other : letter ≠ 'n' ∧ letter ≠ 'r' ∧ letter ≠ 't' := by
    refine ⟨?_, ?_, ?_⟩ <;> rintro rfl <;> exact absurd numeral (by decide)
  rw [nextShown?_escape letter (length_hex numeral fits), escapedChar, if_neg other.1,
    if_neg other.2.1, if_neg other.2.2, if_neg (Nat.ne_of_gt numeral), hexValue_hex,
    Char.ofNat_toNat]

theorem nextShown?_plain {c : Char} (plain : c ≠ '\\') (rest : Text) :
    nextShown? (c :: rest) = some (c, rest) := by
  rw [nextShown?.eq_def]
  exact if_neg plain

/-! ## Literals -/

theorem nextShown?_literalChar {quote : Char} (isQuote : quote = '\'' ∨ quote = '"') (c : Char)
    (rest : Text) : nextShown? (literalChar quote c ++ rest) = some (c, rest) := by
  unfold literalChar
  split_ifs with marked feed carriage tab printable low basic
  · have mark : c = '\'' ∨ c = '"' ∨ c = '\\' := by
      rcases marked with rfl | rfl
      · exact isQuote.imp_right .inl
      · exact .inr (.inr rfl)
    rcases mark with rfl | rfl | rfl
    · exact nextShown?_escape '\'' rfl rest
    · exact nextShown?_escape '"' rfl rest
    · exact nextShown?_escape '\\' rfl rest
  · rw [feed]
    exact nextShown?_escape 'n' rfl rest
  · rw [carriage]
    exact nextShown?_escape 'r' rfl rest
  · rw [tab]
    exact nextShown?_escape 't' rfl rest
  · exact nextShown?_plain (mt .inr marked) rest
  · exact nextShown?_numeral 'x' (by decide) c low rest
  · exact nextShown?_numeral 'u' (by decide) c basic rest
  · exact nextShown?_numeral 'U' (by decide) c c.val.toNat_lt rest

theorem flatMap_literalChar_injective {quote : Char} (isQuote : quote = '\'' ∨ quote = '"') :
    Function.Injective fun text : Text => text.flatMap (literalChar quote) := by
  intro left right same
  dsimp only at same
  induction left generalizing right with
  | nil =>
      cases right with
      | nil => rfl
      | cons d right =>
          have read := congrArg nextShown? same
          rw [List.flatMap_cons, nextShown?_literalChar isQuote] at read
          cases read
  | cons c left ih =>
      have read := congrArg nextShown? same
      rw [List.flatMap_cons, nextShown?_literalChar isQuote] at read
      cases right with
      | nil => cases read
      | cons d right =>
          rw [List.flatMap_cons, nextShown?_literalChar isQuote] at read
          obtain ⟨rfl, rest⟩ := Prod.mk.inj (Option.some.inj read)
          rw [ih rest]

theorem isQuote_literalQuote (text : Text) :
    literalQuote text = '\'' ∨ literalQuote text = '"' := by
  unfold literalQuote
  split
  · exact .inr rfl
  · exact .inl rfl

theorem literal_injective : Function.Injective literal := by
  intro left right same
  have cut := same
  rw [literal_eq, literal_eq, List.append_assoc, List.append_assoc, List.singleton_append,
    List.singleton_append] at cut
  obtain ⟨quotes, rest⟩ := List.cons.inj cut
  rw [quotes] at rest
  have inside := List.append_cancel_right rest
  exact flatMap_literalChar_injective (isQuote_literalQuote right) inside

end DocScan.Text
