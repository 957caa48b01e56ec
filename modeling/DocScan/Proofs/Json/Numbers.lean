import DocScan.Proofs.Json.Spelling

/-!
# Numbers that are written and read

The text of a number has a sign, a whole part, a fraction and a power of ten, of which only the
whole part has to be there. The reader goes through these parts by its phases. Whole numbers are
read as they were written. The text of a double-precision number is a number again, or one of the
words for those that have no digits.
-/

namespace DocScan.Json

/-! ## Digits -/

def IsDigits (text : Text) : Prop := text ≠ [] ∧ ∀ c ∈ text, c.isDigit = true

/-- Digits that do not start with a zero. -/
def IsSignificant (text : Text) : Prop := IsDigits text ∧ text.head? ≠ some '0'

theorem isDigits_ofNat (n : Nat) : IsDigits (Text.ofNat n) :=
  ⟨Nat.toDigits_ne_nil, fun _ member => Nat.isDigit_of_mem_toDigits (by decide) (by decide) member⟩

theorem isSignificant_ofNat (n : Nat) (positive : 0 < n) : IsSignificant (Text.ofNat n) := by
  refine ⟨isDigits_ofNat n, ?_⟩
  induction n using Nat.strongRecOn with
  | ind n ih =>
      by_cases small : n < 10
      · have leading : n.digitChar ≠ '0' := by
          simpa using Nat.pos_iff_ne_zero.mp positive
        simpa [Text.ofNat, Nat.toDigits_of_lt_base small] using leading
      · have large : 10 ≤ n := Nat.le_of_not_lt small
        have shorter := ih (n / 10) (by omega) (by omega)
        simp only [Text.ofNat] at shorter ⊢
        rw [Nat.toDigits_of_base_le (by decide) large, List.head?_append]
        cases leading : (Nat.toDigits 10 (n / 10)).head? with
        | none => exact absurd (List.head?_eq_none_iff.mp leading) Nat.toDigits_ne_nil
        | some c => rwa [leading] at shorter

theorem IsDigits.append_zeros {text : Text} (digits : IsDigits text) (count : Nat) :
    IsDigits (text ++ List.replicate count '0') := by
  refine ⟨by simp [digits.1], fun c member => ?_⟩
  rcases List.mem_append.mp member with member | member
  · exact digits.2 c member
  · rw [List.eq_of_mem_replicate member]
    rfl

theorem IsDigits.zeros_append {text : Text} (digits : IsDigits text) (count : Nat) :
    IsDigits (List.replicate count '0' ++ text) := by
  refine ⟨by simp [digits.1], fun c member => ?_⟩
  rcases List.mem_append.mp member with member | member
  · rw [List.eq_of_mem_replicate member]
    rfl
  · exact digits.2 c member

theorem isSignificant_cons {c : Char} {rest : Text} (digit : c.isDigit = true) (leading : c ≠ '0')
    (digits : ∀ d ∈ rest, d.isDigit = true) : IsSignificant (c :: rest) :=
  ⟨⟨by simp, by simpa using ⟨digit, digits⟩⟩, by simpa using leading⟩

theorem IsSignificant.cases {text : Text} (significant : IsSignificant text) :
    ∃ c rest, text = c :: rest ∧ c.isDigit = true ∧ c ≠ '0' ∧ ∀ d ∈ rest, d.isDigit = true := by
  obtain ⟨⟨nonempty, digits⟩, leading⟩ := significant
  cases text with
  | nil => exact absurd rfl nonempty
  | cons c rest =>
      rw [List.forall_mem_cons] at digits
      exact ⟨c, rest, rfl, digits.1, by simpa using leading, digits.2⟩

theorem ne_of_isDigit {c mark : Char} (digit : c.isDigit = true) (other : mark.isDigit = false) :
    c ≠ mark := by
  rintro rfl
  rw [digit] at other
  cases other

/-! ## The parts of a number -/

/-- The text of a number: a sign, a whole part, a fraction and a power, one behind the other. -/
structure NumberParts where
  sign : Text
  whole : Text
  fraction : Text
  power : Text

namespace NumberParts

def text (parts : NumberParts) : Text :=
  parts.sign ++ (parts.whole ++ (parts.fraction ++ parts.power))

/-- The parts are as they have to be. A whole part that starts with a zero is a zero. -/
structure Valid (parts : NumberParts) : Prop where
  sign : parts.sign = [] ∨ parts.sign = ['-']
  whole : parts.whole = ['0'] ∨ IsSignificant parts.whole
  fraction : parts.fraction = [] ∨ ∃ digits, parts.fraction = '.' :: digits ∧ IsDigits digits
  power : parts.power = [] ∨ ∃ sign digits, parts.power = 'e' :: (sign ++ digits) ∧
    (sign = [] ∨ sign = ['+'] ∨ sign = ['-']) ∧ IsDigits digits

end NumberParts

def IsNumber (text : Text) : Prop := ∃ parts : NumberParts, parts.Valid ∧ parts.text = text

/-! ## Going on with a number -/

namespace Numeral

variable {numeral next last : Numeral}

/-- The number in progress goes on with the text. -/
inductive Continues : Numeral → Text → Numeral → Prop where
  | nil (numeral : Numeral) : Continues numeral [] numeral
  | cons {numeral next last : Numeral} {c : Char} {text : Text}
      (one : numeral.next c = .ok (some next)) (more : Continues next text last) :
      Continues numeral (c :: text) last

theorem Continues.append {text more : Text} (first : Continues numeral text next)
    (second : Continues next more last) : Continues numeral (text ++ more) last := by
  induction first with
  | nil => exact second
  | cons one _ ih => exact .cons one (ih second)

/-- The number is spelled by the whole text. -/
def Reads (text : Text) (last : Numeral) : Prop :=
  ∃ c rest first, text = c :: rest ∧ start? c = some first ∧ Continues first rest last

theorem Reads.append {text more : Text} (reads : Reads text next)
    (continues : Continues next more last) : Reads (text ++ more) last := by
  obtain ⟨c, rest, first, rfl, started, before⟩ := reads
  exact ⟨c, rest ++ more, first, rfl, started, before.append continues⟩

theorem continues_digits {phase : Phase} {push : Numeral → Char → Numeral}
    (pushes : ∀ numeral : Numeral, numeral.phase = phase → ∀ c : Char, c.isDigit = true →
      numeral.next c = .ok (some (push numeral c)) ∧ (push numeral c).phase = phase)
    {digits : Text} (all : ∀ c ∈ digits, c.isDigit = true) (inPhase : numeral.phase = phase) :
    (digits.foldl push numeral).phase = phase ∧
      Continues numeral digits (digits.foldl push numeral) := by
  induction digits generalizing numeral with
  | nil => exact ⟨inPhase, .nil numeral⟩
  | cons c digits ih =>
      rw [List.forall_mem_cons] at all
      obtain ⟨continues, keeps⟩ := pushes numeral inPhase c all.1
      obtain ⟨last, more⟩ := ih all.2 keeps
      exact ⟨last, .cons continues more⟩

theorem pushes_whole (inPhase : numeral.phase = .whole) (c : Char) (digit : c.isDigit = true) :
    numeral.next c = .ok (some (numeral.pushWhole c)) ∧ (numeral.pushWhole c).phase = .whole :=
  ⟨next_whole numeral c inPhase digit, by simp [pushWhole, inPhase]⟩

theorem pushes_place (inPhase : numeral.phase = .fraction) (c : Char) (digit : c.isDigit = true) :
    numeral.next c = .ok (some (numeral.pushPlace c)) ∧
      (numeral.pushPlace c).phase = .fraction := by
  simp [next, pushPlace, inPhase, digit]

theorem pushes_power (inPhase : numeral.phase = .power) (c : Char) (digit : c.isDigit = true) :
    numeral.next c = .ok (some (numeral.pushPower c)) ∧ (numeral.pushPower c).phase = .power := by
  simp [next, pushPower, inPhase, digit]

/-! ## The whole part -/

/-- The whole part of the number has been read, and nothing behind it. -/
structure HasWhole (numeral : Numeral) (negative : Bool) (whole : Text) : Prop where
  phase : numeral.phase = .zero ∨ numeral.phase = .whole
  sign : numeral.negative = negative
  digits : numeral.digits = Text.natural whole

theorem foldl_pushWhole (digits : Text) (numeral : Numeral) :
    (digits.foldl pushWhole numeral).negative = numeral.negative ∧
      (digits.foldl pushWhole numeral).digits =
        digits.foldl (fun number digit => 10 * number + (digit.toNat - '0'.toNat))
          numeral.digits := by
  induction digits generalizing numeral with
  | nil => exact ⟨rfl, rfl⟩
  | cons c digits ih => exact ih (numeral.pushWhole c)

theorem continues_whole {c : Char} {rest : Text} {negative : Bool}
    (inPhase : numeral.phase = .whole) (sign : numeral.negative = negative)
    (first : numeral.digits = digitValue c) (digits : ∀ d ∈ rest, d.isDigit = true) :
    ∃ last, Continues numeral rest last ∧ HasWhole last negative (c :: rest) := by
  obtain ⟨phase, continues⟩ := continues_digits (fun _ inPhase => pushes_whole inPhase) digits
    inPhase
  obtain ⟨keeps, folded⟩ := foldl_pushWhole rest numeral
  have value : (rest.foldl pushWhole numeral).digits = Text.natural (c :: rest) := by
    rw [folded, first, Text.natural, List.foldl_cons, Nat.mul_zero, Nat.zero_add]
    rfl
  exact ⟨_, continues, .inr phase, keeps.trans sign, value⟩

theorem exists_reads_whole {whole : Text} (valid : whole = ['0'] ∨ IsSignificant whole) :
    ∃ last, Reads whole last ∧ HasWhole last false whole := by
  rcases valid with rfl | significant
  · exact ⟨_, ⟨'0', [], _, rfl, rfl, .nil _⟩, .inl rfl, rfl, rfl⟩
  · obtain ⟨c, rest, rfl, digit, leading, digits⟩ := significant.cases
    have noSign : c ≠ '-' := ne_of_isDigit digit (by decide)
    have started : start? c = some { phase := .whole, digits := digitValue c } := by
      rw [start?, if_neg noSign, if_neg leading, if_pos digit]
    obtain ⟨last, continues, has⟩ : ∃ last,
        Continues { phase := .whole, digits := digitValue c } rest last ∧
          HasWhole last false (c :: rest) :=
      continues_whole rfl rfl rfl digits
    exact ⟨last, ⟨c, rest, _, rfl, started, continues⟩, has⟩

theorem exists_reads_negative {whole : Text} (valid : whole = ['0'] ∨ IsSignificant whole) :
    ∃ last, Reads ('-' :: whole) last ∧ HasWhole last true whole := by
  rcases valid with rfl | significant
  · exact ⟨_, ⟨'-', ['0'], _, rfl, rfl, .cons rfl (.nil _)⟩, .inl rfl, rfl, rfl⟩
  · obtain ⟨c, rest, rfl, digit, leading, digits⟩ := significant.cases
    have one : next { phase := .sign, negative := true } c =
        .ok (some (pushWhole { phase := .sign, negative := true } c)) := by
      simp only [next, if_pos digit]
    obtain ⟨last, continues, has⟩ : ∃ last,
        Continues (pushWhole { phase := .sign, negative := true } c) rest last ∧
          HasWhole last true (c :: rest) :=
      continues_whole (by simp [pushWhole, leading]) rfl (by simp [pushWhole]) digits
    exact ⟨last, ⟨'-', c :: rest, _, rfl, rfl, .cons one continues⟩, has⟩

theorem HasWhole.value {negative : Bool} {whole : Text} (has : HasWhole numeral negative whole) :
    numeral.value = .int (Binary64.signed negative (Text.natural whole)) := by
  rcases has.phase with phase | phase <;> simp [Numeral.value, phase, has.sign, has.digits]

/-! ## Fraction and power -/

theorem next_behindWhole (phase : numeral.phase = .zero ∨ numeral.phase = .whole) {c : Char}
    (noDigit : c.isDigit = false) : numeral.next c = .ok (numeral.afterWhole c) := by
  rcases phase with phase | phase <;> simp [next, phase, noDigit]

theorem exists_continues_fraction (phase : numeral.phase = .zero ∨ numeral.phase = .whole)
    {digits : Text} (fraction : IsDigits digits) :
    ∃ last, last.phase = .fraction ∧ Continues numeral ('.' :: digits) last := by
  obtain ⟨nonempty, all⟩ := fraction
  cases digits with
  | nil => exact absurd rfl nonempty
  | cons c digits =>
      rw [List.forall_mem_cons] at all
      have point : numeral.next '.' = .ok (some { numeral with phase := .point }) := by
        rw [next_behindWhole phase (by decide)]
        rfl
      have first : next { numeral with phase := .point } c =
          .ok (some (pushPlace { numeral with phase := .point } c)) := by
        simp only [next, if_pos all.1]
      have begun : (pushPlace { numeral with phase := .point } c).phase = .fraction := rfl
      obtain ⟨inPhase, more⟩ :=
        continues_digits (fun _ inPhase => pushes_place inPhase) all.2 begun
      exact ⟨_, inPhase, .cons point (.cons first more)⟩

theorem exists_continues_power
    (letter : numeral.next 'e' = .ok (some { numeral with phase := .letter })) {sign digits : Text}
    (signs : sign = [] ∨ sign = ['+'] ∨ sign = ['-']) (power : IsDigits digits) :
    ∃ last, last.phase = .power ∧ Continues numeral ('e' :: (sign ++ digits)) last := by
  obtain ⟨nonempty, all⟩ := power
  cases digits with
  | nil => exact absurd rfl nonempty
  | cons c digits =>
      rw [List.forall_mem_cons] at all
      have behind (before : Numeral) (phase : before.phase = .letter ∨ before.phase = .powerSign) :
          ∃ last, last.phase = .power ∧ Continues before (c :: digits) last := by
        have first : before.next c = .ok (some (before.pushPower c)) := by
          rcases phase with phase | phase <;> simp [next, phase, all.1]
        have begun : (before.pushPower c).phase = .power := rfl
        obtain ⟨inPhase, more⟩ :=
          continues_digits (fun _ inPhase => pushes_power inPhase) all.2 begun
        exact ⟨_, inPhase, .cons first more⟩
      rcases signs with rfl | rfl | rfl
      · obtain ⟨last, inPhase, more⟩ := behind { numeral with phase := .letter } (.inl rfl)
        exact ⟨last, inPhase, .cons letter more⟩
      · obtain ⟨last, inPhase, more⟩ := behind
          { numeral with phase := .powerSign, powerNegative := false } (.inr rfl)
        exact ⟨last, inPhase, .cons letter (.cons rfl more)⟩
      · obtain ⟨last, inPhase, more⟩ := behind
          { numeral with phase := .powerSign, powerNegative := true } (.inr rfl)
        exact ⟨last, inPhase, .cons letter (.cons rfl more)⟩

theorem exists_reads (parts : NumberParts) (valid : parts.Valid) :
    ∃ last, Reads parts.text last ∧ last.isComplete = true := by
  obtain ⟨signs, wholes, fractions, powers⟩ := valid
  obtain ⟨whole, reads, phase⟩ : ∃ whole, Reads (parts.sign ++ parts.whole) whole ∧
      (whole.phase = .zero ∨ whole.phase = .whole) := by
    rcases signs with sign | sign <;> rw [sign]
    · obtain ⟨whole, reads, has⟩ := exists_reads_whole wholes
      exact ⟨whole, reads, has.phase⟩
    · obtain ⟨whole, reads, has⟩ := exists_reads_negative wholes
      exact ⟨whole, reads, has.phase⟩
  -- Behind the fraction the number may end or go on with a power.
  obtain ⟨last, more, complete, letter⟩ : ∃ last, Continues whole parts.fraction last ∧
      last.isComplete = true ∧ last.next 'e' = .ok (some { last with phase := .letter }) := by
    rcases fractions with none | ⟨digits, some, fraction⟩
    · rw [none]
      refine ⟨whole, .nil whole, ?_, ?_⟩
      · rcases phase with phase | phase <;> simp [isComplete, phase]
      · rw [next_behindWhole phase (by decide)]
        rfl
    · rw [some]
      obtain ⟨last, inPhase, more⟩ := exists_continues_fraction phase fraction
      exact ⟨last, more, by simp [isComplete, inPhase], by simp [next, inPhase, isLetter]⟩
  rw [NumberParts.text, ← List.append_assoc]
  rcases powers with none | ⟨sign, digits, some, signs, power⟩
  · rw [none, List.append_nil]
    exact ⟨last, reads.append more, complete⟩
  · rw [some]
    obtain ⟨final, inPhase, ends⟩ := exists_continues_power letter signs power
    exact ⟨final, reads.append (more.append ends), by simp [isComplete, inPhase]⟩

end Numeral

/-! ## Numbers in a text -/

variable {limits : Limits} {depth : Nat}

theorem not_word_of_next {numeral : Numeral} {c : Char} {outcome : Option Numeral}
    (goesOn : numeral.next c = .ok outcome) : ¬ (numeral.phase = .sign ∧ c = 'I') := by
  rintro ⟨sign, rfl⟩
  simp [Numeral.next, sign] at goesOn

theorem step_numeral {numeral next : Numeral} {c : Char} (unlimited : limits.wholePart = none)
    (one : numeral.next c = .ok (some next)) (state : State) :
    step limits { state with pending := .numeral numeral } c =
      .ok { state with pending := .numeral next } := by
  simp only [step, unlimited, isBeyond, Option.any_none, Bool.false_eq_true, if_false,
    if_neg (not_word_of_next one), one]

theorem advance_continues {numeral last : Numeral} {text : Text}
    (unlimited : limits.wholePart = none) (continues : numeral.Continues text last)
    (state : State) (rest : Text) :
    advance limits { state with pending := .numeral numeral } (text ++ rest) =
      advance limits { state with pending := .numeral last } rest := by
  induction continues with
  | nil => rfl
  | cons one _ ih =>
      rw [List.cons_append, advance_cons (step_numeral unlimited one state), ih]

/-- What a number starts with stands for nothing else. -/
theorem plain_of_start {c : Char} {first : Numeral} (started : Numeral.start? c = some first) :
    isSpace c = false ∧ c ≠ ']' ∧ c ≠ '"' ∧ c ≠ '[' ∧ c ≠ '{' := by
  have initial : c = '-' ∨ c.isDigit = true := by
    unfold Numeral.start? at started
    split at started
    · exact .inl ‹_›
    · split at started
      · exact .inr (by subst c; rfl)
      · split at started
        · exact .inr ‹_›
        · cases started
  rcases initial with rfl | digit
  · decide
  · have other {mark : Char} (noDigit : mark.isDigit = false) : c ≠ mark :=
      ne_of_isDigit digit noDigit
    have noSpace : isSpace c = false := by
      simp only [isSpace, beq_eq_false_iff_ne.mpr (other (by decide : ' '.isDigit = false)),
        beq_eq_false_iff_ne.mpr (other (by decide : '\n'.isDigit = false)),
        beq_eq_false_iff_ne.mpr (other (by decide : '\r'.isDigit = false)),
        beq_eq_false_iff_ne.mpr (other (by decide : '\t'.isDigit = false)), Bool.or_false]
    exact ⟨noSpace, other (by decide), other (by decide), other (by decide), other (by decide)⟩

theorem advance_reads {text : Text} {last : Numeral} (unlimited : limits.wholePart = none)
    (shallow : isBeyond limits.depth depth = false) (reads : Numeral.Reads text last)
    (state : State) (rest : Text) (awaits : state.AwaitsValue)
    (deep : state.frames.length = depth) :
    advance limits state (text ++ rest) =
      advance limits { state with pending := .numeral last } rest := by
  obtain ⟨c, text, first, rfl, started, continues⟩ := reads
  obtain ⟨noSpace, noEnd, bare⟩ := plain_of_start started
  have begun : step limits state c = .ok { state with pending := .numeral first } := by
    rw [step_begin awaits noSpace noEnd, begin_bare (deep ▸ shallow) bare, started]
  rw [List.cons_append, advance_cons begun, advance_continues unlimited continues]

theorem next_of_isComplete {numeral : Numeral} (complete : numeral.isComplete = true) {c : Char}
    (ends : EndsNumber c) : numeral.next c = .ok none := by
  obtain ⟨noDigit, noPoint, noLetter, noCapital⟩ := ends
  unfold Numeral.isComplete at complete
  split at complete
  · simp_all [Numeral.next, Numeral.afterWhole, Numeral.isLetter]
  · simp_all [Numeral.next, Numeral.afterWhole, Numeral.isLetter]
  · simp_all [Numeral.next, Numeral.isLetter]
  · simp_all [Numeral.next]
  all_goals cases complete

theorem spells_of_reads {text : Text} {last : Numeral} (unlimited : limits.wholePart = none)
    (shallow : isBeyond limits.depth depth = false) (reads : Numeral.Reads text last)
    (complete : last.isComplete = true) : Spells limits depth text last.value := by
  intro state c next rest awaits deep ends stepped
  have ended := next_of_isComplete complete ends
  have delivered : step limits { state with pending := .numeral last } c = .ok next := by
    have idle : (deliver last.value state.frames).pending = .nothing := by
      rcases state.frames with _ | ⟨_ | _, _⟩ <;> rfl
    rw [step_idle idle] at stepped
    simp only [step, unlimited, isBeyond, Option.any_none, Bool.false_eq_true, if_false,
      if_neg (not_word_of_next ended), ended, stepped]
  rw [advance_reads unlimited shallow reads state _ awaits deep, advance_cons delivered]

theorem whole_ofNat (n : Nat) : Text.ofNat n = ['0'] ∨ IsSignificant (Text.ofNat n) := by
  rcases Nat.eq_zero_or_pos n with rfl | positive
  · exact .inl rfl
  · exact .inr (isSignificant_ofNat n positive)

theorem spells_ofInt (unlimited : limits.wholePart = none)
    (shallow : isBeyond limits.depth depth = false) (number : Int) :
    Spells limits depth (Text.ofInt number) (.int number) := by
  have whole := whole_ofNat number.natAbs
  obtain ⟨last, reads, has⟩ : ∃ last, Numeral.Reads (Text.ofInt number) last ∧
      last.HasWhole (decide (number < 0)) (Text.ofNat number.natAbs) := by
    by_cases negative : number < 0
    · simp only [Text.ofInt, negative, if_true, decide_true]
      exact Numeral.exists_reads_negative whole
    · simp only [Text.ofInt, negative, if_false, decide_false]
      exact Numeral.exists_reads_whole whole
  have complete : last.isComplete = true := by
    rcases has.phase with phase | phase <;> simp [Numeral.isComplete, phase]
  have value : last.value = .int number := by
    rw [has.value, Text.natural_ofNat, Binary64.signed]
    refine congrArg Value.int ?_
    by_cases negative : number < 0
    · rw [decide_eq_true negative, if_pos rfl]
      omega
    · rw [decide_eq_false negative, if_neg Bool.false_ne_true]
      omega
  exact value ▸ spells_of_reads unlimited shallow reads complete

/-! ## Double-precision numbers -/

theorem twoTo_pos (exponent : Int) : 0 < Binary64.twoTo exponent := Nat.two_pow_pos _

theorem tenTo_pos (exponent : Int) : 0 < Binary64.tenTo exponent := Nat.pow_pos (by decide)

/-- Zero is not in the neighbourhood of a number that is positive. -/
theorem onGrid_pos {near : Decimal.Neighbourhood} {power : Int} {point : Nat}
    (positive : 0 < near.low) (found : Decimal.onGrid near power = some point) : 0 < point := by
  have above : 0 < near.low * (Binary64.twoTo near.exponent * Binary64.tenTo (-power)) :=
    Nat.mul_pos positive (Nat.mul_pos (twoTo_pos _) (tenTo_pos _))
  unfold Decimal.onGrid at found
  dsimp only at found
  generalize near.low * (Binary64.twoTo near.exponent * Binary64.tenTo (-power)) = low
    at found above
  generalize near.high * (Binary64.twoTo near.exponent * Binary64.tenTo (-power)) = high at found
  generalize near.centre * (Binary64.twoTo near.exponent * Binary64.tenTo (-power)) = centre
    at found
  generalize Binary64.tenTo power * Binary64.twoTo (-near.exponent) = step at found
  generalize centre / step = below at found
  have nonzero (inside : (if near.ends = true then
      decide (low ≤ below * step ∧ below * step ≤ high)
      else decide (low < below * step ∧ below * step < high)) = true) : 0 < below := by
    refine Nat.pos_of_ne_zero fun zero => ?_
    rw [zero, Nat.zero_mul] at inside
    split at inside <;> have bounds := of_decide_eq_true inside <;> omega
  split at found
  · rename_i inside _
    have below := nonzero inside
    split at found
    · exact Option.some.inj found ▸ below
    · split at found
      · exact Option.some.inj found ▸ Nat.succ_pos _
      · split at found
        · exact Option.some.inj found ▸ below
        · exact Option.some.inj found ▸ Nat.succ_pos _
  · rename_i inside _
    exact Option.some.inj found ▸ nonzero inside
  · exact Option.some.inj found ▸ Nat.succ_pos _
  · cases found

theorem low_neighbourhood_pos {mantissa : Nat} (positive : 0 < mantissa) (exponent : Int) :
    0 < (Decimal.neighbourhood mantissa exponent).low := by
  simp only [Decimal.neighbourhood]
  split <;> omega

theorem isSignificant_trimmed {text : Text} (significant : IsSignificant text) :
    IsSignificant (text.reverse.dropWhile (· == '0')).reverse := by
  obtain ⟨c, rest, rfl, digit, leading, digits⟩ := significant.cases
  have kept : ((c :: rest).reverse.dropWhile (· == '0')).reverse =
      c :: (rest.reverse.dropWhile (· == '0')).reverse := by
    rw [List.reverse_cons, List.dropWhile_append]
    split
    · rename_i empty
      rw [List.isEmpty_iff.mp empty]
      simp [leading]
    · simp
  rw [kept]
  refine isSignificant_cons digit leading fun d member => digits d ?_
  rw [List.mem_reverse] at member
  exact List.mem_reverse.mp ((List.dropWhile_sublist _).mem member)

theorem isSignificant_shortest {mantissa : Nat} (positive : 0 < mantissa) (exponent : Int) :
    IsSignificant (Decimal.shortest mantissa exponent).1 := by
  unfold Decimal.shortest
  dsimp only
  refine isSignificant_trimmed (isSignificant_ofNat _ ?_)
  generalize search : (List.range 17).findSome? _ = found
  cases found with
  | none => exact positive
  | some pair =>
      obtain ⟨more, -, hit⟩ := List.exists_of_findSome?_eq_some search
      obtain ⟨point, onGrid, rfl⟩ := Option.map_eq_some_iff.mp hit
      exact onGrid_pos (low_neighbourhood_pos positive exponent) onGrid

theorem sign_cases (negative : Bool) :
    (if negative then ['-'] else [] : Text) = [] ∨
      (if negative then ['-'] else [] : Text) = ['-'] := by
  cases negative <;> simp

theorem isNumber_positional {sign digits : Text} (signs : sign = [] ∨ sign = ['-'])
    (significant : IsSignificant digits) (place : Int) :
    IsNumber (sign ++ Decimal.positional digits place) := by
  unfold Decimal.positional
  split
  · have fraction := significant.1.zeros_append (-place).toNat
    exact ⟨⟨sign, ['0'], _, []⟩, ⟨signs, .inl rfl, .inr ⟨_, rfl, fraction⟩, .inl rfl⟩,
      by simp [NumberParts.text]⟩
  · rename_i positive
    obtain ⟨c, rest, rfl, digit, leading, all⟩ := significant.cases
    split
    · have whole : IsSignificant (c :: rest ++
          List.replicate (place.toNat - (c :: rest).length) '0') :=
        isSignificant_cons digit leading
          ((significant.1.append_zeros _).2 · <| List.mem_cons_of_mem c ·)
      exact ⟨⟨sign, _, ['.', '0'], []⟩,
        ⟨signs, .inr whole, .inr ⟨['0'], rfl, isDigits_ofNat 0⟩, .inl rfl⟩,
        by simp [NumberParts.text]⟩
    · rename_i short
      obtain ⟨before, shape⟩ : ∃ before, place.toNat = before + 1 := ⟨place.toNat - 1, by omega⟩
      have whole : IsSignificant ((c :: rest).take place.toNat) := by
        rw [shape, List.take_succ_cons]
        exact isSignificant_cons digit leading fun d member => all d (List.mem_of_mem_take member)
      have fraction : IsDigits ((c :: rest).drop place.toNat) := by
        refine ⟨?_, fun d member => significant.1.2 d (List.mem_of_mem_drop member)⟩
        simp only [ne_eq, List.drop_eq_nil_iff]
        omega
      exact ⟨⟨sign, _, _, []⟩, ⟨signs, .inr whole, .inr ⟨_, rfl, fraction⟩, .inl rfl⟩,
        by simp [NumberParts.text]⟩

theorem isNumber_scientific (layout : Decimal.Layout) {sign digits : Text}
    (signs : sign = [] ∨ sign = ['-']) (significant : IsSignificant digits) (place : Int) :
    IsNumber (sign ++ Decimal.scientific layout digits place) := by
  obtain ⟨c, rest, rfl, digit, leading, all⟩ := significant.cases
  have whole : IsSignificant [c] := isSignificant_cons digit leading (by simp)
  have power := (isDigits_ofNat (place - 1).natAbs).zeros_append
    (layout.exponentWidth - (Text.ofNat (place - 1).natAbs).length)
  generalize signed : (if place - 1 < 0 then ['-'] else if layout.plus then ['+'] else [] : Text) =
    powerSign
  have powerSigns : powerSign = [] ∨ powerSign = ['+'] ∨ powerSign = ['-'] := by
    subst signed
    split
    · exact .inr (.inr rfl)
    · split
      · exact .inr (.inl rfl)
      · exact .inl rfl
  generalize broken : (if (c :: rest).length ≤ 1 then [] else '.' :: (c :: rest).drop 1 : Text) =
    fraction
  have fractions : fraction = [] ∨ ∃ digits, fraction = '.' :: digits ∧ IsDigits digits := by
    subst broken
    split
    · exact .inl rfl
    · rename_i long
      refine .inr ⟨rest, rfl, ?_, all⟩
      rintro rfl
      exact long (Nat.le_refl 1)
  refine ⟨⟨sign, [c], fraction, _⟩,
    ⟨signs, .inr whole, fractions, .inr ⟨powerSign, _, rfl, powerSigns, power⟩⟩, ?_⟩
  simp only [NumberParts.text, Decimal.scientific, Text.padLeft, signed, broken,
    List.take_succ_cons, List.take_zero, List.append_assoc, List.cons_append, List.nil_append]

theorem isNumber_text (layout : Decimal.Layout) (negative : Bool) (mantissa : Nat)
    (exponent : Int) : IsNumber (Decimal.text layout (.finite negative mantissa exponent)) := by
  have signs := sign_cases negative
  generalize sign : (if negative then ['-'] else [] : Text) = written at signs
  simp only [Decimal.text, sign]
  split
  · exact ⟨⟨written, ['0'], ['.', '0'], []⟩,
      ⟨signs, .inl rfl, .inr ⟨['0'], rfl, isDigits_ofNat 0⟩, .inl rfl⟩, rfl⟩
  · rename_i positive
    have significant := isSignificant_shortest (Nat.pos_of_ne_zero positive) exponent
    split
    · exact isNumber_positional signs significant _
    · exact isNumber_scientific layout signs significant _

theorem isNumber_ofInt (number : Int) : IsNumber (Text.ofInt number) := by
  have whole := whole_ofNat number.natAbs
  unfold Text.ofInt
  split
  · exact ⟨⟨['-'], Text.ofNat number.natAbs, [], []⟩, ⟨.inr rfl, whole, .inl rfl, .inl rfl⟩,
      by simp [NumberParts.text]⟩
  · exact ⟨⟨[], Text.ofNat number.natAbs, [], []⟩, ⟨.inl rfl, whole, .inl rfl, .inl rfl⟩,
      by simp [NumberParts.text]⟩

theorem exists_spells_of_isNumber (unlimited : limits.wholePart = none)
    (shallow : isBeyond limits.depth depth = false) {text : Text} (number : IsNumber text) :
    ∃ value, Spells limits depth text value := by
  obtain ⟨parts, valid, rfl⟩ := number
  obtain ⟨last, reads, complete⟩ := Numeral.exists_reads parts valid
  exact ⟨last.value, spells_of_reads unlimited shallow reads complete⟩

theorem encloses_negativeInfinity (unlimited : limits.wholePart = none)
    (shallow : isBeyond limits.depth depth = false) :
    Encloses limits depth "-Infinity".toList (.float (.infinite true)) := by
  intro state rest awaits deep
  have begun : step limits state '-' =
      .ok { state with pending := .numeral { phase := .sign, negative := true } } := by
    rw [step_begin awaits (by decide) (by decide), begin_bare (deep ▸ shallow) (by decide)]
    rfl
  have worded : step limits
      { state with pending := .numeral { phase := .sign, negative := true } } 'I' =
      .ok { state with
        pending := .constant 'n' "finity".toList (.float (.infinite true)) } := by
    simp only [step, unlimited, isBeyond, Option.any_none, Bool.false_eq_true, if_false]
    rfl
  show advance limits state ('-' :: 'I' :: ('n' :: "finity".toList ++ rest)) = _
  rw [advance_cons begun, advance_cons worded]
  exact advance_constant

theorem exists_spells_text (unlimited : limits.wholePart = none)
    (shallow : isBeyond limits.depth depth = false) (number : Binary64) :
    ∃ value, Spells limits depth (Decimal.text asciiStyle.numbers number) value := by
  cases number with
  | finite negative mantissa exponent =>
      exact exists_spells_of_isNumber unlimited shallow (isNumber_text _ negative mantissa exponent)
  | infinite negative =>
      cases negative with
      | false =>
          have word : constant? 'I' = some ('n' :: "finity".toList, .float (.infinite false)) :=
            rfl
          exact ⟨_, (encloses_constant shallow word).spells⟩
      | true => exact ⟨_, (encloses_negativeInfinity unlimited shallow).spells⟩
  | undefined =>
      have word : constant? 'N' = some ('a' :: ['N'], .float .undefined) := rfl
      exact ⟨_, (encloses_constant shallow word).spells⟩

/-! ## One line -/

theorem isGraphic_of_isDigit {c : Char} (digit : c.isDigit = true) : IsGraphic c := by
  have bounds : 48 ≤ c.toNat ∧ c.toNat ≤ 57 := by
    simpa [Char.isDigit, UInt32.le_iff_toNat_le] using digit
  exact ⟨by omega, by omega⟩

theorem IsNumber.isGraphic {text : Text} (number : IsNumber text) {c : Char} (member : c ∈ text) :
    IsGraphic c := by
  obtain ⟨parts, ⟨signs, wholes, fractions, powers⟩, rfl⟩ := number
  simp only [NumberParts.text, List.mem_append] at member
  have of_digits {digits : Text} (valid : IsDigits digits) (among : c ∈ digits) : IsGraphic c :=
    isGraphic_of_isDigit (valid.2 c among)
  rcases member with sign | whole | fraction | power
  · rcases signs with none | minus
    · simp [none] at sign
    · obtain rfl : c = '-' := by simpa [minus] using sign
      decide
  · rcases wholes with zero | significant
    · obtain rfl : c = '0' := by simpa [zero] using whole
      decide
    · exact of_digits significant.1 whole
  · rcases fractions with none | ⟨digits, some, valid⟩
    · simp [none] at fraction
    · rw [some] at fraction
      rcases List.mem_cons.mp fraction with rfl | among
      · decide
      · exact of_digits valid among
  · rcases powers with none | ⟨sign, digits, some, signs, valid⟩
    · simp [none] at power
    · rw [some] at power
      rcases List.mem_cons.mp power with rfl | among
      · decide
      · rcases List.mem_append.mp among with among | among
        · rcases signs with rfl | rfl | rfl
          · cases among
          · obtain rfl := List.mem_singleton.mp among
            decide
          · obtain rfl := List.mem_singleton.mp among
            decide
        · exact of_digits valid among

theorem isGraphic_of_mem_number {number : Binary64} {c : Char}
    (member : c ∈ Decimal.text asciiStyle.numbers number) : IsGraphic c := by
  cases number with
  | finite negative mantissa exponent =>
      exact (isNumber_text _ negative mantissa exponent).isGraphic member
  | infinite negative =>
      cases negative with
      | false => exact isGraphic_of_mem (by decide : "Infinity".toList.all _ = true) member
      | true => exact isGraphic_of_mem (by decide : "-Infinity".toList.all _ = true) member
  | undefined => exact isGraphic_of_mem (by decide : "NaN".toList.all _ = true) member

end DocScan.Json
