import DocScan.Log.Level
import DocScan.Proofs.Json.Numbers
import DocScan.Proofs.Text.Trimming
import DocScan.Settings.Spelling

/-!
# Spellings of settings

A whole number may be spelled with spaces around it, a plus sign, zeros in front, low lines between
digits, and a fraction of zeros. All of these are taken off before the digits are read, so that
every spelling gives the number. The name of a level may have blanks around it, and the case of its
letters does not matter, as it does not in the words for truth values.
-/

namespace DocScan.Settings

open Json (IsSignificant)

/-! ## Grouped digits -/

/-- Digits, with single low lines between some of them. -/
inductive Grouped : Text → Prop
  | single {c : Char} (digit : c.isDigit = true) : Grouped [c]
  | next {c : Char} {rest : Text} (digit : c.isDigit = true) (grouped : Grouped rest) :
      Grouped (c :: rest)
  | mark {c : Char} {rest : Text} (digit : c.isDigit = true) (grouped : Grouped rest) :
      Grouped (c :: '_' :: rest)

def withoutMarks (text : Text) : Text := text.filter (· != '_')

theorem withoutMarks_cons {c : Char} (digit : c.isDigit = true) (rest : Text) :
    withoutMarks (c :: rest) = c :: withoutMarks rest := by
  have other : (c != '_') = true := bne_iff_ne.mpr (Json.ne_of_isDigit digit rfl)
  exact List.filter_cons_of_pos other

namespace Grouped

variable {text : Text}

theorem exists_cons (grouped : Grouped text) : ∃ c rest, text = c :: rest ∧ c.isDigit = true := by
  cases grouped with
  | single digit => exact ⟨_, _, rfl, digit⟩
  | next digit _ => exact ⟨_, _, rfl, digit⟩
  | mark digit _ => exact ⟨_, _, rfl, digit⟩

theorem getLast? (grouped : Grouped text) : ∃ c, text.getLast? = some c ∧ c.isDigit = true := by
  induction grouped with
  | single digit => exact ⟨_, rfl, digit⟩
  | next _ _ ih =>
      obtain ⟨c, last, digit⟩ := ih
      exact ⟨c, by rw [List.getLast?_cons, last]; rfl, digit⟩
  | mark _ _ ih =>
      obtain ⟨c, last, digit⟩ := ih
      exact ⟨c, by rw [List.getLast?_cons, List.getLast?_cons, last]; rfl, digit⟩

theorem isDigit_or_mark (grouped : Grouped text) : ∀ c ∈ text, c.isDigit = true ∨ c = '_' := by
  induction grouped with
  | single digit => simp [digit]
  | next digit _ ih => exact List.forall_mem_cons.mpr ⟨.inl digit, ih⟩
  | mark digit _ ih =>
      exact List.forall_mem_cons.mpr ⟨.inl digit, List.forall_mem_cons.mpr ⟨.inr rfl, ih⟩⟩

theorem isDigit_of_mem (grouped : Grouped text) : ∀ c ∈ withoutMarks text, c.isDigit = true := by
  intro c member
  obtain ⟨member, other⟩ := List.mem_filter.mp member
  exact (grouped.isDigit_or_mark c member).resolve_right (bne_iff_ne.mp other)

theorem split_cons {c : Char} (digit : c.isDigit = true) (rest : Text) :
    ∃ piece pieces, Text.split '_' rest = piece :: pieces ∧
      Text.split '_' (c :: rest) = (c :: piece) :: pieces := by
  have other : c ≠ '_' := Json.ne_of_isDigit digit rfl
  cases cut : Text.split '_' rest with
  | nil => exact absurd cut (Text.split_ne_nil '_' rest)
  | cons piece pieces => exact ⟨piece, pieces, rfl, by rw [Text.split, if_neg other, cut]⟩

theorem ungroup_eq (grouped : Grouped text) : ungroup text = withoutMarks text := by
  have pieces : (Text.split '_' text).all (· ≠ []) = true := by
    induction grouped with
    | single digit =>
        obtain ⟨piece, pieces, cut, split⟩ := split_cons digit []
        obtain ⟨rfl, rfl⟩ := List.cons.inj cut
        rw [split]
        rfl
    | next digit _ ih =>
        obtain ⟨piece, pieces, cut, split⟩ := split_cons digit _
        rw [cut] at ih
        rw [split]
        simp_all
    | @mark c rest digit _ ih =>
        obtain ⟨piece, pieces, cut, split⟩ := split_cons digit ('_' :: rest)
        obtain ⟨rfl, rfl⟩ := List.cons.inj cut
        rw [split]
        simpa using ih
  rw [ungroup, if_pos pieces]
  rfl

/-- Zeros in front and low lines among them are skipped up to the first digit that counts. -/
theorem exists_behindZeros (grouped : Grouped text)
    (positive : 0 < Text.natural (withoutMarks text)) (last : Char) (tail : Text) :
    ∃ rest, behindZeros last (text ++ tail) = some (rest ++ tail) ∧ Grouped rest ∧
      rest.head? ≠ some '0' ∧ Text.natural (withoutMarks rest) = Text.natural (withoutMarks text) ∧
      rest.length ≤ text.length := by
  have stops {c : Char} (digit : c.isDigit = true) (other : c ≠ '0') (rest : Text) (last : Char) :
      behindZeros last (c :: rest) = some (c :: rest) := by
    have noMark : c ≠ '_' := Json.ne_of_isDigit digit rfl
    have noPoint : c ≠ '.' := Json.ne_of_isDigit digit rfl
    simp [behindZeros, other, noMark, noPoint, digit]
  induction grouped generalizing last with
  | @single c digit =>
      have other : c ≠ '0' := by
        rintro rfl
        exact absurd positive (by decide)
      exact ⟨[c], stops digit other tail last, .single digit, by simpa using other, rfl,
        Nat.le_refl _⟩
  | @next c rest digit grouped ih =>
      by_cases zero : c = '0'
      · subst zero
        have same : Text.natural (withoutMarks ('0' :: rest)) =
            Text.natural (withoutMarks rest) := rfl
        rw [same] at positive ⊢
        obtain ⟨behind, skipped, left, leading, value, shorter⟩ := ih positive '0'
        exact ⟨behind, skipped, left, leading, value, Nat.le_succ_of_le shorter⟩
      · exact ⟨c :: rest, stops digit zero _ last, .next digit grouped, by simpa using zero, rfl,
          Nat.le_refl _⟩
  | @mark c rest digit grouped ih =>
      by_cases zero : c = '0'
      · subst zero
        have same : Text.natural (withoutMarks ('0' :: '_' :: rest)) =
            Text.natural (withoutMarks rest) := rfl
        rw [same] at positive ⊢
        obtain ⟨behind, skipped, left, leading, value, shorter⟩ := ih positive '_'
        exact ⟨behind, skipped, left, leading, value, by simp only [List.length_cons]; omega⟩
      · exact ⟨c :: '_' :: rest, stops digit zero _ last, .mark digit grouped, by simpa using zero,
          rfl, Nat.le_refl _⟩

end Grouped

/-! ## Digits without marks -/

theorem plainInteger_of_ne {text : Text} (unsigned : text.head? ≠ some '-') :
    plainInteger text = magnitude false text := by
  unfold plainInteger
  split
  · exact absurd rfl unsigned
  · rfl

theorem takeWhile_digits {text : Text} (digits : ∀ c ∈ text, c.isDigit = true) :
    text.takeWhile Char.isDigit = text ∧ text.dropWhile Char.isDigit = [] :=
  ⟨List.takeWhile_eq_self_iff.mpr digits, List.dropWhile_eq_nil_iff.mpr digits⟩

theorem magnitude_of_isSignificant {text : Text} (significant : IsSignificant text)
    (short : text.length ≤ maxDigits) : magnitude false text = .ok (Text.natural text) := by
  obtain ⟨⟨nonempty, digits⟩, leading⟩ := significant
  obtain ⟨all, none⟩ := takeWhile_digits digits
  have within : ¬ maxDigits < text.length + false.toNat := Nat.not_lt.mpr short
  simp only [magnitude, all, none]
  rw [if_neg (by simp [nonempty, leading]), if_neg within, if_neg (by simp)]
  rfl

/-- A text that is not too long is refused, or it is read and holds nothing but digits. -/
theorem magnitude_cases {text : Text} (short : text.length ≤ maxDigits) :
    magnitude false text = .error .unreadableInteger ∨
      (∀ c ∈ text, c.isDigit = true) ∧ magnitude false text = .ok (Text.natural text) := by
  have within : ¬ maxDigits < (text.takeWhile Char.isDigit).length + false.toNat := by
    have shorter := (List.takeWhile_sublist Char.isDigit (l := text)).length_le
    simp only [Bool.toNat_false]
    omega
  simp only [magnitude, if_neg within]
  split
  · exact .inl rfl
  · split
    · exact .inl rfl
    · rename_i ends
      have digits : ∀ c ∈ text, c.isDigit = true :=
        List.dropWhile_eq_nil_iff.mp (Decidable.not_not.mp ends)
      rw [(takeWhile_digits digits).1]
      exact .inr ⟨digits, rfl⟩

/-! ## Spellings -/

/-- A plus sign, or none. -/
inductive PlusSign : Text → Prop
  | absent : PlusSign []
  | plus : PlusSign ['+']

/-- A point with zeros behind it, or nothing. -/
inductive ZeroFraction : Text → Prop
  | absent : ZeroFraction []
  | zeros (count : Nat) : ZeroFraction ('.' :: List.replicate (count + 1) '0')

/-- The text spells the whole number: digits in groups, with spaces around them. Information
separators may stand around the name of a level, but they are no spaces around a number. -/
inductive SpellsWhole (number : Nat) : Text → Prop
  | intro (before sign digits fraction after : Text) (left : ∀ c ∈ before, isSpace c = true)
      (signed : PlusSign sign) (grouped : Grouped digits)
      (value : Text.natural (withoutMarks digits) = number) (empty : ZeroFraction fraction)
      (right : ∀ c ∈ after, isSpace c = true) :
      SpellsWhole number (before ++ (sign ++ (digits ++ fraction)) ++ after)

variable {sign digits fraction : Text}

theorem dropPlus_spelled (signed : PlusSign sign) (grouped : Grouped digits)
    (tail : Text) : dropPlus (sign ++ (digits ++ tail)) = digits ++ tail := by
  obtain ⟨c, rest, rfl, digit⟩ := grouped.exists_cons
  have noPlus : c ≠ '+' := Json.ne_of_isDigit digit rfl
  have noMinus : c ≠ '-' := Json.ne_of_isDigit digit rfl
  cases signed with
  | absent => simp [dropPlus, noPlus]
  | plus => simp [dropPlus, noMinus]

theorem dropLeadingZeros?_grouped (grouped : Grouped digits)
    (positive : 0 < Text.natural (withoutMarks digits)) (tail : Text) :
    ∃ rest, dropLeadingZeros? (digits ++ tail) = some (rest ++ tail) ∧ Grouped rest ∧
      rest.head? ≠ some '0' ∧
      Text.natural (withoutMarks rest) = Text.natural (withoutMarks digits) ∧
      rest.length ≤ digits.length := by
  obtain ⟨rest, skipped, others⟩ := grouped.exists_behindZeros positive '0' tail
  refine ⟨rest, ?_, others⟩
  obtain ⟨c, behind, rfl, digit⟩ := grouped.exists_cons
  have noMark : c ≠ '_' := Json.ne_of_isDigit digit rfl
  have noPoint : c ≠ '.' := Json.ne_of_isDigit digit rfl
  rw [← skipped, List.cons_append, dropLeadingZeros?, behindZeros]
  simp only [noMark, or_false, digit, true_or, if_true, noPoint, if_false]

theorem dropZeroFraction_grouped (grouped : Grouped digits)
    (empty : ZeroFraction fraction) :
    dropZeroFraction (digits ++ fraction) = digits := by
  cases empty with
  | absent =>
      have noPoint : '.' ∉ digits := by
        intro member
        rcases grouped.isDigit_or_mark '.' member with digit | mark
        · cases digit
        · cases mark
      rw [List.append_nil, dropZeroFraction]
      split
      · rename_i ends
        have inside := (List.dropWhile_suffix (· == '0') (l := digits.reverse)).subset
        rw [ends] at inside
        exact absurd (List.mem_reverse.mp (inside List.mem_cons_self)) noPoint
      · rfl
  | zeros count =>
      have backwards : (digits ++ '.' :: List.replicate (count + 1) '0').reverse =
          List.replicate (count + 1) '0' ++ '.' :: digits.reverse := by simp
      have zero : ∀ c ∈ List.replicate (count + 1) '0', (c == '0') = true := by
        intro c member
        rw [List.eq_of_mem_replicate member]
        rfl
      rw [dropZeroFraction, backwards, List.dropWhile_append_of_pos zero,
        List.takeWhile_append_of_pos zero]
      simp

theorem markedInteger_spelled (signed : PlusSign sign) (grouped : Grouped digits)
    (positive : 0 < Text.natural (withoutMarks digits))
    (empty : ZeroFraction fraction)
    (short : digits.length ≤ maxDigits) :
    markedInteger (sign ++ (digits ++ fraction)) = .ok (Text.natural (withoutMarks digits)) := by
  obtain ⟨rest, skipped, left, leading, value, shorter⟩ :=
    dropLeadingZeros?_grouped grouped positive fraction
  obtain ⟨c, behind, rfl, digit⟩ := left.exists_cons
  have first : c ≠ '0' := by simpa using leading
  have unsigned : c ≠ '-' := Json.ne_of_isDigit digit rfl
  have cleaned : withoutMarks (c :: behind) = c :: withoutMarks behind :=
    withoutMarks_cons digit behind
  have significant : IsSignificant (withoutMarks (c :: behind)) :=
    ⟨⟨by simp [cleaned], left.isDigit_of_mem⟩, by simpa [cleaned] using first⟩
  have within : (withoutMarks (c :: behind)).length ≤ maxDigits :=
    Nat.le_trans (List.length_filter_le _ _) (Nat.le_trans shorter short)
  have noMinus : (withoutMarks (c :: behind)).head? ≠ some '-' := by
    simpa [cleaned] using unsigned
  rw [markedInteger, dropPlus_spelled signed grouped, skipped]
  dsimp only
  rw [dropZeroFraction_grouped left empty, left.ungroup_eq, plainInteger_of_ne noMinus,
    magnitude_of_isSignificant significant within, value]
  rfl

theorem withoutMarks_of_digits {text : Text} (digits : ∀ c ∈ text, c.isDigit = true) :
    withoutMarks text = text :=
  List.filter_eq_self.mpr fun c member => bne_iff_ne.mpr (Json.ne_of_isDigit (digits c member) rfl)

/-- A spelling that is read as it stands has no marks. -/
theorem plainInteger_spelled (signed : PlusSign sign) (grouped : Grouped digits)
    (empty : ZeroFraction fraction)
    (short : (sign ++ (digits ++ fraction)).length ≤ maxDigits) :
    plainInteger (sign ++ (digits ++ fraction)) = .error .unreadableInteger ∨
      plainInteger (sign ++ (digits ++ fraction)) = .ok (Text.natural (withoutMarks digits)) := by
  have unsigned : (sign ++ (digits ++ fraction)).head? ≠ some '-' := by
    obtain ⟨c, rest, rfl, digit⟩ := grouped.exists_cons
    have noMinus : c ≠ '-' := Json.ne_of_isDigit digit rfl
    cases signed with
    | absent => simpa using noMinus
    | plus => simp
  rw [plainInteger_of_ne unsigned]
  refine (magnitude_cases short).imp_right fun ⟨all, read⟩ => ?_
  have noSign : sign = [] := by
    cases signed with
    | absent => rfl
    | plus => exact absurd (all '+' (by simp)) (by decide)
  have noFraction : fraction = [] := by
    cases empty with
    | absent => rfl
    | zeros count => exact absurd (all '.' (by simp)) (by decide)
  subst noSign noFraction
  rw [List.nil_append, List.append_nil] at all read ⊢
  rw [read, withoutMarks_of_digits all]

/-! ## Spaces around a number -/

theorem isBlank_of_isDigit {c : Char} (digit : c.isDigit = true) : Text.isBlank c = false := by
  have range : 48 ≤ c.toNat ∧ c.toNat ≤ 57 := by
    simpa [Char.isDigit, UInt32.le_iff_toNat_le] using digit
  simp only [Text.isBlank, Bool.or_eq_false_iff, Bool.and_eq_false_iff, decide_eq_false_iff_not,
    beq_eq_false_iff_ne]
  omega

theorem isSpace_of_isDigit {c : Char} (digit : c.isDigit = true) : isSpace c = false := by
  rw [isSpace, isBlank_of_isDigit digit, Bool.false_and]

theorem trimSpaces_spelled (signed : PlusSign sign) (grouped : Grouped digits)
    (empty : ZeroFraction fraction) {before after : Text} (left : ∀ c ∈ before, isSpace c = true)
    (right : ∀ c ∈ after, isSpace c = true) :
    trimSpaces (before ++ (sign ++ (digits ++ fraction)) ++ after) =
      sign ++ (digits ++ fraction) := by
  refine Text.dropWhile_ends isSpace left right (fun c first => ?_) (fun c last => ?_)
  · obtain ⟨d, rest, rfl, digit⟩ := grouped.exists_cons
    cases signed with
    | absent =>
        obtain rfl : d = c := by simpa using first
        exact isSpace_of_isDigit digit
    | plus =>
        obtain rfl : '+' = c := by simpa using first
        decide
  · obtain ⟨d, ends, digit⟩ := grouped.getLast?
    cases empty with
    | absent =>
        obtain rfl : d = c := by
          rw [List.append_nil, List.getLast?_append, ends] at last
          simpa using last
        exact isSpace_of_isDigit digit
    | zeros count =>
        obtain rfl : '0' = c := by
          rw [← List.append_assoc, List.getLast?_append, List.replicate_succ', ← List.cons_append,
            List.getLast?_concat] at last
          simpa using last
        decide

/-- A positive number is read from all its spellings, those that are too long apart. -/
theorem spelledInteger_of_spellsWhole {number : Nat} {text : Text} (positive : 0 < number)
    (spells : SpellsWhole number text) (short : text.length ≤ maxDigits) :
    spelledInteger text = .ok number := by
  obtain ⟨before, sign, digits, fraction, after, left, signed, grouped, rfl, empty, right⟩ := spells
  -- Only the digits that count are bounded, but they are no more than there are characters.
  have whole : (sign ++ (digits ++ fraction)).length ≤ maxDigits := by
    simp only [List.length_append] at short ⊢
    omega
  have some : digits.length ≤ maxDigits := by
    simp only [List.length_append] at whole
    omega
  rw [spelledInteger, trimSpaces_spelled signed grouped empty left right]
  rcases plainInteger_spelled signed grouped empty whole with refused | read
  · simp only [refused, markedInteger_spelled signed grouped positive empty some]
  · simp only [read]

/-! ## Levels -/

/-- The text spells the level: in any case of letters, with blanks around the name. -/
inductive SpellsLevel (level : Log.Level) : Text → Prop
  | intro (before name after : Text) (left : ∀ c ∈ before, Text.isBlank c = true)
      (letters : Text.upper name = level.name) (right : ∀ c ∈ after, Text.isBlank c = true) :
      SpellsLevel level (before ++ name ++ after)

theorem spellsLevel_name (level : Log.Level) : SpellsLevel level level.name := by
  have upper : Text.upper level.name = level.name := by cases level <;> decide +kernel
  simpa using SpellsLevel.intro [] level.name [] (by simp) upper (by simp)

theorem upperChar_of_isBlank {c : Char} (blank : Text.isBlank c = true) :
    Text.upperChar c = [c] := by
  let blanks : List Nat :=
    [0x09, 0x0A, 0x0B, 0x0C, 0x0D, 0x1C, 0x1D, 0x1E, 0x1F, 0x20, 0x85, 0xA0, 0x1680, 0x2000, 0x2001,
     0x2002, 0x2003, 0x2004, 0x2005, 0x2006, 0x2007, 0x2008, 0x2009, 0x200A, 0x2028, 0x2029, 0x202F,
     0x205F, 0x3000]
  have caseless : ∀ n ∈ blanks, Text.upperChar (Char.ofNat n) = [Char.ofNat n] := by decide +kernel
  have listed : c.toNat ∈ blanks := by
    simp only [Text.isBlank, Bool.or_eq_true, Bool.and_eq_true, decide_eq_true_eq, beq_iff_eq]
      at blank
    simp only [blanks, List.mem_cons, List.not_mem_nil, or_false]
    omega
  simpa using caseless c.toNat listed

theorem mem_upper_of_caseless {c : Char} {name : Text} (member : c ∈ name)
    (caseless : Text.upperChar c = [c]) : c ∈ Text.upper name :=
  List.mem_flatMap.mpr ⟨c, member, caseless ▸ List.mem_singleton_self c⟩

theorem not_isBlank_of_upper {level : Log.Level} {name : Text}
    (letters : Text.upper name = level.name) : ∀ c ∈ name, Text.isBlank c = false := by
  intro c member
  have solid : level.name.any Text.isBlank = false := by cases level <;> decide
  refine Bool.eq_false_iff.mpr fun blank => ?_
  have kept := mem_upper_of_caseless member (upperChar_of_isBlank blank)
  rw [letters] at kept
  exact List.any_eq_false.mp solid c kept blank

theorem upper_trim_of_spellsLevel {level : Log.Level} {text : Text}
    (spells : SpellsLevel level text) : Text.upper (Text.trim text) = level.name := by
  obtain ⟨before, name, after, left, letters, right⟩ := spells
  have solid := not_isBlank_of_upper letters
  have trimmed : Text.trim (before ++ name ++ after) = name :=
    Text.dropWhile_ends Text.isBlank left right (fun c first => solid c (List.mem_of_head? first))
      fun c last => solid c (List.mem_of_getLast? last)
  rw [trimmed, letters]

theorem ofSetting?_of_spellsLevel {level : Log.Level} {text : Text}
    (spells : SpellsLevel level text) : Log.Level.ofSetting? text = some level := by
  rw [Log.Level.ofSetting?, upper_trim_of_spellsLevel spells, Log.Level.ofName?_name]

theorem ofSetting?_eq_some_iff {level : Log.Level} {text : Text} :
    Log.Level.ofSetting? text = some level ↔ SpellsLevel level text := by
  constructor
  · intro found
    have letters : level.name = Text.upper (Text.trim text) := by simpa using List.find?_some found
    obtain ⟨before, after, left, right, same⟩ := Text.exists_trim text
    have spells := SpellsLevel.intro before (Text.trim text) after left letters.symm right
    rwa [same] at spells
  · exact ofSetting?_of_spellsLevel

/-! ## Truth values -/

/-- The text spells the truth value by its word, in any case of letters. -/
def SpellsFlag (flag : Bool) (text : Text) : Prop :=
  text.map Char.toLower = if flag then "true".toList else "false".toList

theorem wordFlag?_of_spellsFlag {flag : Bool} {text : Text} (spells : SpellsFlag flag text) :
    wordFlag? text = some flag := by
  rw [wordFlag?, spells]
  cases flag <;> decide

/-! ## Texts that a variable can hold -/

theorem terminator_not_mem_of_spellsLevel {level : Log.Level} {text : Text}
    (spells : SpellsLevel level text) : '\x00' ∉ text := by
  obtain ⟨before, name, after, left, letters, right⟩ := spells
  intro member
  rcases List.mem_append.mp member with member | member
  · rcases List.mem_append.mp member with member | member
    · exact absurd (left _ member) (by decide)
    · have kept := mem_upper_of_caseless member (by decide)
      rw [letters] at kept
      revert kept
      cases level <;> decide
  · exact absurd (right _ member) (by decide)

theorem terminator_not_mem_of_spellsFlag {flag : Bool} {text : Text}
    (spells : SpellsFlag flag text) : '\x00' ∉ text := by
  intro member
  have kept : '\x00' ∈ text.map Char.toLower := List.mem_map.mpr ⟨_, member, rfl⟩
  rw [spells] at kept
  revert kept
  cases flag <;> decide

theorem terminator_not_mem_of_spellsWhole {number : Nat} {text : Text}
    (spells : SpellsWhole number text) : '\x00' ∉ text := by
  obtain ⟨before, sign, digits, fraction, after, left, signed, grouped, -, empty, right⟩ := spells
  have noSpace {spaces : Text} (blank : ∀ c ∈ spaces, isSpace c = true) : '\x00' ∉ spaces :=
    fun member => absurd (blank _ member) (by decide)
  have noSign : '\x00' ∉ sign := by cases signed <;> decide
  have noDigit : '\x00' ∉ digits := by
    intro member
    rcases grouped.isDigit_or_mark _ member with digit | mark
    · cases digit
    · cases mark
  have noFraction : '\x00' ∉ fraction := by
    cases empty with
    | absent => exact List.not_mem_nil
    | zeros count => simp
  simp only [List.mem_append, noSpace left, noSign, noDigit, noFraction, noSpace right, or_self,
    not_false_eq_true]

end DocScan.Settings
