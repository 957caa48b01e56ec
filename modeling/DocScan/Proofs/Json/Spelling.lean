import DocScan.Json.Reader
import DocScan.Json.Writer

/-!
# Texts that spell a value

Where a value may come, a text spells a value if reading the text delivers the value, whatever has
been read before and whatever follows. A number ends with what follows it, so something that does
not belong to a number has to follow; all other values show their end themselves.

A character of a string is written as itself or as one of three kinds of escapes, and a character
above the basic plane as a pair of them. The reader undoes each of them.
-/

namespace DocScan.Json

variable {limits : Limits} {state next : State}

theorem advance_cons {c : Char} (stepped : step limits state c = .ok next) (rest : Text) :
    advance limits state (c :: rest) = advance limits next rest := by
  simp only [advance, stepped]

/-! ## Where a value may come -/

def State.AwaitsValue (state : State) : Prop :=
  state.pending = .nothing ∧ (state.goal = .value ∨ state.goal = .valueOrEnd)

/-- The character ends a number that it follows. -/
def EndsNumber (c : Char) : Prop := c.isDigit = false ∧ c ≠ '.' ∧ c ≠ 'e' ∧ c ≠ 'E'

/-- Inside so many containers the text spells the value, and its end shows. -/
def Encloses (limits : Limits) (depth : Nat) (text : Text) (value : Value) : Prop :=
  ∀ state rest, State.AwaitsValue state → state.frames.length = depth →
    advance limits state (text ++ rest) = advance limits (deliver value state.frames) rest

/-- Inside so many containers the text spells the value in front of a character that goes with the
value and ends a number. -/
def Spells (limits : Limits) (depth : Nat) (text : Text) (value : Value) : Prop :=
  ∀ state c next rest, State.AwaitsValue state → state.frames.length = depth → EndsNumber c →
    step limits (deliver value state.frames) c = .ok next →
    advance limits state (text ++ c :: rest) = advance limits next rest

theorem Encloses.spells {depth : Nat} {text : Text} {value : Value}
    (encloses : Encloses limits depth text value) : Spells limits depth text value := by
  intro state c next rest awaits deep _ stepped
  rw [encloses state (c :: rest) awaits deep, advance_cons stepped]

theorem step_idle (idle : state.pending = .nothing) (c : Char) :
    step limits state c = state.between limits c := by
  simp only [step, idle]

theorem step_begin {c : Char} (awaits : state.AwaitsValue) (noSpace : isSpace c = false)
    (noEnd : c ≠ ']') : step limits state c = state.begin limits c := by
  rw [step_idle awaits.1, State.between, noSpace, if_neg Bool.false_ne_true]
  obtain ⟨pending, frames, goal⟩ := state
  obtain ⟨-, rfl | rfl⟩ := awaits
  · rcases frames with _ | ⟨⟨items⟩ | ⟨members, name⟩, frames⟩
    · rfl
    · exact if_neg noEnd
    · rfl
  · rcases frames with _ | ⟨⟨items⟩ | ⟨members, name⟩, frames⟩
    · rfl
    · exact if_neg noEnd
    · rfl

theorem begin_bare {c : Char} (shallow : isBeyond limits.depth state.frames.length = false)
    (bare : c ≠ '"' ∧ c ≠ '[' ∧ c ≠ '{') :
    state.begin limits c =
      match Numeral.start? c, constant? c with
      | some numeral, _ => .ok { state with pending := .numeral numeral }
      | none, some (letters, value) => .ok (state.spell value letters)
      | none, none => .error .noValue := by
  have unfolded := State.begin.eq_def limits state c
  rw [shallow, if_neg Bool.false_ne_true] at unfolded
  rw [unfolded]
  split
  · exact absurd rfl bare.1
  · exact absurd rfl bare.2.1
  · exact absurd rfl bare.2.2
  · rfl

/-! ## Constants -/

theorem advance_constant {letter : Char} {letters rest : Text} {value : Value} :
    advance limits { state with pending := .constant letter letters value }
        (letter :: letters ++ rest) = advance limits (deliver value state.frames) rest := by
  induction letters generalizing letter with
  | nil => exact advance_cons (by simp [step, State.spell]) rest
  | cons next letters ih =>
      have stepped : step limits { state with pending := .constant letter (next :: letters) value }
          letter = .ok { state with pending := .constant next letters value } := by
        simp [step, State.spell]
      rw [List.cons_append, advance_cons stepped]
      exact ih

theorem encloses_constant {depth : Nat} {c letter : Char} {letters : Text} {value : Value}
    (shallow : isBeyond limits.depth depth = false)
    (constant : constant? c = some (letter :: letters, value)) :
    Encloses limits depth (c :: letter :: letters) value := by
  intro state rest awaits deep
  have initials : c = 'n' ∨ c = 't' ∨ c = 'f' ∨ c = 'N' ∨ c = 'I' := by
    unfold constant? at constant
    split at constant
    · exact .inl rfl
    · exact .inr (.inl rfl)
    · exact .inr (.inr (.inl rfl))
    · exact .inr (.inr (.inr (.inl rfl)))
    · exact .inr (.inr (.inr (.inr rfl)))
    · cases constant
  obtain ⟨noSpace, noEnd, bare, noNumber⟩ : isSpace c = false ∧ c ≠ ']' ∧
      (c ≠ '"' ∧ c ≠ '[' ∧ c ≠ '{') ∧ Numeral.start? c = none := by
    rcases initials with rfl | rfl | rfl | rfl | rfl <;> decide
  have begun : step limits state c =
      .ok { state with pending := .constant letter letters value } := by
    rw [step_begin awaits noSpace noEnd, begin_bare (deep ▸ shallow) bare, noNumber, constant]
    rfl
  rw [List.cons_append, advance_cons begun]
  exact advance_constant

/-! ## Code units -/

theorem hexDigit?_digitChar {digit : Nat} (small : digit < 16) :
    hexDigit? (Nat.digitChar digit) = some digit := by
  have every : ∀ digit < 16, hexDigit? (Nat.digitChar digit) = some digit := by decide
  exact every digit small

theorem hex_succ (width n : Nat) :
    Text.hex (width + 2) n = Text.hex (width + 1) (n / 16) ++ [Nat.digitChar (n % 16)] := by
  by_cases small : n < 16
  · rw [Nat.div_eq_of_lt small, Nat.mod_eq_of_lt small]
    simp [Text.hex, Text.padLeft, Nat.toDigits_of_lt_base small, Nat.toDigits_zero,
      ← List.replicate_succ']
  · have large : 16 ≤ n := Nat.le_of_not_lt small
    simp [Text.hex, Text.padLeft, Nat.toDigits_of_base_le (by decide : 1 < 16) large]

theorem hex_four (unit : Nat) (small : unit < 0x10000) :
    Text.hex 4 unit =
      [Nat.digitChar (unit / 4096), Nat.digitChar (unit / 256 % 16),
       Nat.digitChar (unit / 16 % 16), Nat.digitChar (unit % 16)] := by
  have lead : unit / 16 / 16 / 16 < 16 := by omega
  have single : Text.hex 1 (unit / 16 / 16 / 16) = [Nat.digitChar (unit / 16 / 16 / 16)] := by
    simp [Text.hex, Text.padLeft, Nat.toDigits_of_lt_base lead]
  rw [hex_succ, hex_succ, hex_succ, single]
  simp only [Nat.div_div_eq_div_mul, List.cons_append, List.nil_append]

theorem step_unit {reversed : Text} {lead : Option Nat} {digits value digit : Nat} {c : Char}
    (hex : hexDigit? c = some digit) (more : digits ≠ 3) :
    step limits { state with pending := .unit reversed lead digits value } c =
      .ok { state with pending := .unit reversed lead (digits + 1) (16 * value + digit) } := by
  have read : nextDigit reversed lead digits value c =
      .ok (.unit reversed lead (digits + 1) (16 * value + digit)) := by
    simp only [nextDigit, hex, if_neg more]
  simp only [step, read]
  rfl

theorem step_lastUnit {reversed : Text} {lead : Option Nat} {value digit : Nat} {c : Char}
    {pending : Pending} (hex : hexDigit? c = some digit)
    (ended : endUnit reversed lead (16 * value + digit) = .ok pending) :
    step limits { state with pending := .unit reversed lead 3 value } c =
      .ok { state with pending } := by
  have read : nextDigit reversed lead 3 value c = .ok pending := by
    simp only [nextDigit, hex, if_true, ended]
  simp only [step, read]
  rfl

theorem advance_hex {reversed : Text} {lead : Option Nat} {unit : Nat} {pending : Pending}
    (small : unit < 0x10000) (ended : endUnit reversed lead unit = .ok pending) (rest : Text) :
    advance limits { state with pending := .unit reversed lead 0 0 } (Text.hex 4 unit ++ rest) =
      advance limits { state with pending } rest := by
  have first : hexDigit? (Nat.digitChar (unit / 4096)) = some (unit / 4096) :=
    hexDigit?_digitChar (by omega)
  have second : hexDigit? (Nat.digitChar (unit / 256 % 16)) = some (unit / 256 % 16) :=
    hexDigit?_digitChar (by omega)
  have third : hexDigit? (Nat.digitChar (unit / 16 % 16)) = some (unit / 16 % 16) :=
    hexDigit?_digitChar (by omega)
  have fourth : hexDigit? (Nat.digitChar (unit % 16)) = some (unit % 16) :=
    hexDigit?_digitChar (by omega)
  have whole : 16 * (16 * (16 * (16 * 0 + unit / 4096) + unit / 256 % 16) + unit / 16 % 16) +
      unit % 16 = unit := by
    omega
  rw [hex_four unit small]
  simp only [List.cons_append, List.nil_append]
  rw [advance_cons (step_unit first (by decide)), advance_cons (step_unit second (by decide)),
    advance_cons (step_unit third (by decide)),
    advance_cons (step_lastUnit fourth (whole.symm ▸ ended))]

theorem advance_unitEscape {reversed : Text} {unit : Nat} {pending : Pending}
    (small : unit < 0x10000) (ended : endUnit reversed none unit = .ok pending) (rest : Text) :
    advance limits { state with pending := .text reversed } (unitEscape unit ++ rest) =
      advance limits { state with pending } rest := by
  have escape : step limits { state with pending := .text reversed } '\\' =
      .ok { state with pending := .escape reversed } := rfl
  have letter : step limits { state with pending := .escape reversed } 'u' =
      .ok { state with pending := .unit reversed none 0 0 } := rfl
  simp only [unitEscape, List.cons_append]
  rw [advance_cons escape, advance_cons letter, advance_hex small ended]

theorem advance_unitEscape_trail {reversed : Text} {lead unit : Nat} {pending : Pending}
    (small : unit < 0x10000) (ended : endUnit reversed (some lead) unit = .ok pending)
    (rest : Text) :
    advance limits { state with pending := .trail reversed lead } (unitEscape unit ++ rest) =
      advance limits { state with pending } rest := by
  have escape : step limits { state with pending := .trail reversed lead } '\\' =
      .ok { state with pending := .trailEscape reversed lead } := rfl
  have letter : step limits { state with pending := .trailEscape reversed lead } 'u' =
      .ok { state with pending := .unit reversed (some lead) 0 0 } := rfl
  simp only [unitEscape, List.cons_append]
  rw [advance_cons escape, advance_cons letter, advance_hex small ended]

theorem toNat_bounds (c : Char) : c.toNat < 0xD800 ∨ 0xDFFF < c.toNat ∧ c.toNat < 0x110000 :=
  c.valid

theorem advance_basic (c : Char) (basic : c.toNat < 0x10000) (reversed rest : Text) :
    advance limits { state with pending := .text reversed } (unitEscape c.toNat ++ rest) =
      advance limits { state with pending := .text (c :: reversed) } rest := by
  have valid := toNat_bounds c
  have ended : endUnit reversed none c.toNat = .ok (.text (c :: reversed)) := by
    simp only [endUnit, Char.ofNat_toNat]
    rw [if_neg (by omega), if_neg (by omega)]
  exact advance_unitEscape basic ended rest

theorem advance_above (c : Char) (above : 0x10000 ≤ c.toNat) (reversed rest : Text) :
    advance limits { state with pending := .text reversed }
        (unitEscape (0xD800 + (c.toNat - 0x10000) / 0x400) ++
          (unitEscape (0xDC00 + (c.toNat - 0x10000) % 0x400) ++ rest)) =
      advance limits { state with pending := .text (c :: reversed) } rest := by
  have valid := toNat_bounds c
  generalize leading : 0xD800 + (c.toNat - 0x10000) / 0x400 = lead
  generalize trailing : 0xDC00 + (c.toNat - 0x10000) % 0x400 = trail
  have leads : endUnit reversed none lead = .ok (.trail reversed lead) := by
    simp only [endUnit]
    rw [if_pos (by omega)]
  have trails : endUnit reversed (some lead) trail = .ok (.text (c :: reversed)) := by
    have same : 0x10000 + (lead - 0xD800) * 0x400 + (trail - 0xDC00) = c.toNat := by omega
    simp only [endUnit]
    rw [if_pos (by omega), same, Char.ofNat_toNat]
  rw [advance_unitEscape (by omega) leads, advance_unitEscape_trail (by omega) trails]

/-! ## Strings -/

/-- The character is visible or a space, and it is in ASCII. -/
def IsGraphic (c : Char) : Prop := 0x20 ≤ c.toNat ∧ c.toNat < 0x7F

instance (c : Char) : Decidable (IsGraphic c) := inferInstanceAs (Decidable (_ ∧ _))

theorem isGraphic_of_mem {text : Text} (graphic : text.all (decide <| IsGraphic ·) = true)
    {c : Char} (member : c ∈ text) : IsGraphic c :=
  of_decide_eq_true (List.all_eq_true.mp graphic c member)

/-- The ways to write a character of a string: with a letter, with one code unit, with two, or as
itself. -/
inductive Escapes (ascii : Bool) (c : Char) : Text → Prop where
  | short (letter : Char) (other : letter ≠ 'u') (stands : shortEscape? letter = some c)
      (graphic : IsGraphic letter) : Escapes ascii c ['\\', letter]
  | basic (small : c.toNat < 0x10000) : Escapes ascii c (unitEscape c.toNat)
  | above (large : 0x10000 ≤ c.toNat) :
      Escapes ascii c
        (unitEscape (0xD800 + (c.toNat - 0x10000) / 0x400) ++
          unitEscape (0xDC00 + (c.toNat - 0x10000) % 0x400))
  | plain (quote : c ≠ '"') (backslash : c ≠ '\\') (control : 0x20 ≤ c.toNat)
      (graphic : ascii = true → c.toNat < 0x7F) : Escapes ascii c [c]

theorem escapes_escapeChar (ascii : Bool) (c : Char) : Escapes ascii c (escapeChar ascii c) := by
  unfold escapeChar
  by_cases quote : c = '"'
  · subst quote
    exact .short '"' (by decide) rfl (by decide)
  rw [if_neg quote]
  by_cases backslash : c = '\\'
  · subst backslash
    exact .short '\\' (by decide) rfl (by decide)
  rw [if_neg backslash]
  by_cases lineFeed : c = '\n'
  · subst lineFeed
    exact .short 'n' (by decide) rfl (by decide)
  rw [if_neg lineFeed]
  by_cases carriage : c = '\r'
  · subst carriage
    exact .short 'r' (by decide) rfl (by decide)
  rw [if_neg carriage]
  by_cases tab : c = '\t'
  · subst tab
    exact .short 't' (by decide) rfl (by decide)
  rw [if_neg tab]
  by_cases backspace : c.toNat = 8
  · obtain rfl : Char.ofNat 8 = c := by rw [← backspace, Char.ofNat_toNat]
    exact .short 'b' (by decide) rfl (by decide)
  rw [if_neg backspace]
  by_cases formFeed : c.toNat = 12
  · obtain rfl : Char.ofNat 12 = c := by rw [← formFeed, Char.ofNat_toNat]
    exact .short 'f' (by decide) rfl (by decide)
  rw [if_neg formFeed]
  by_cases control : c.toNat < 0x20
  · rw [if_pos control]
    exact .basic (by omega)
  rw [if_neg control]
  by_cases beyond : ascii ∧ 0x7F ≤ c.toNat
  · rw [if_pos beyond]
    by_cases small : c.toNat < 0x10000
    · rw [if_pos small]
      exact .basic small
    · rw [if_neg small]
      exact .above (Nat.le_of_not_lt small)
  · rw [if_neg beyond]
    have graphic (escaping : ascii = true) : c.toNat < 0x7F :=
      Nat.lt_of_not_le fun high => beyond ⟨escaping, high⟩
    exact .plain quote backslash (Nat.le_of_not_lt control) graphic

theorem advance_shortEscape {letter meant : Char} (other : letter ≠ 'u')
    (stands : shortEscape? letter = some meant) (reversed rest : Text) :
    advance limits { state with pending := .text reversed } ('\\' :: letter :: rest) =
      advance limits { state with pending := .text (meant :: reversed) } rest := by
  have escape : step limits { state with pending := .text reversed } '\\' =
      .ok { state with pending := .escape reversed } := rfl
  have ended : step limits { state with pending := .escape reversed } letter =
      .ok { state with pending := .text (meant :: reversed) } := by
    simp only [step, if_neg other, stands]
  rw [advance_cons escape, advance_cons ended]

theorem advance_escapeChar (ascii : Bool) (c : Char) (reversed rest : Text) :
    advance limits { state with pending := .text reversed } (escapeChar ascii c ++ rest) =
      advance limits { state with pending := .text (c :: reversed) } rest := by
  have escapes := escapes_escapeChar ascii c
  generalize escapeChar ascii c = text at escapes ⊢
  cases escapes with
  | short letter other stands => exact advance_shortEscape other stands reversed rest
  | basic small => exact advance_basic c small reversed rest
  | above large =>
      rw [List.append_assoc]
      exact advance_above c large reversed rest
  | plain quote backslash control =>
      have stepped : step limits { state with pending := .text reversed } c =
          .ok { state with pending := .text (c :: reversed) } := by
        simp only [step, if_neg quote, if_neg backslash, if_neg (Nat.not_lt.mpr control)]
      exact advance_cons stepped rest

theorem advance_escaped (ascii : Bool) (text reversed rest : Text) :
    advance limits { state with pending := .text reversed }
        (text.flatMap (escapeChar ascii) ++ rest) =
      advance limits { state with pending := .text (text.reverse ++ reversed) } rest := by
  induction text generalizing reversed with
  | nil => rfl
  | cons c text ih =>
      rw [List.flatMap_cons, List.append_assoc, advance_escapeChar, ih, List.reverse_cons,
        List.append_assoc]
      rfl

theorem advance_writeText (ascii : Bool) (text rest : Text)
    (begun : step limits state '"' = .ok { state with pending := .text [] }) :
    advance limits state (writeText ascii text ++ rest) =
      advance limits (state.takeText text) rest := by
  have ended : step limits { state with pending := .text text.reverse } '"' =
      .ok (state.takeText text) := by
    simp [step, State.takeText]
  simp only [writeText, List.cons_append, List.append_assoc, List.nil_append]
  rw [advance_cons begun, advance_escaped, List.append_nil, advance_cons ended]

theorem encloses_writeText {depth : Nat} (shallow : isBeyond limits.depth depth = false)
    (ascii : Bool) (text : Text) : Encloses limits depth (writeText ascii text) (.text text) := by
  intro state rest awaits deep
  have begun : step limits state '"' = .ok { state with pending := .text [] } := by
    rw [step_begin awaits (by decide) (by decide)]
    simp [State.begin, deep, shallow]
  have taken : state.takeText text = deliver (.text text) state.frames := by
    obtain ⟨pending, frames, goal⟩ := state
    obtain ⟨-, rfl | rfl⟩ := awaits <;> rfl
  rw [advance_writeText ascii text rest begun, taken]

/-! ## One line -/

theorem isGraphic_digitChar {digit : Nat} (small : digit < 16) :
    IsGraphic (Nat.digitChar digit) := by
  have every : ∀ digit < 16, IsGraphic (Nat.digitChar digit) := by decide
  exact every digit small

theorem isGraphic_of_mem_unitEscape {c : Char} {unit : Nat} (small : unit < 0x10000)
    (member : c ∈ unitEscape unit) : IsGraphic c := by
  simp only [unitEscape, hex_four unit small, List.mem_cons, List.not_mem_nil, or_false] at member
  rcases member with rfl | rfl | rfl | rfl | rfl | rfl
  · decide
  · decide
  all_goals exact isGraphic_digitChar (by omega)

theorem isGraphic_of_mem_escapeChar {c meant : Char} (member : c ∈ escapeChar true meant) :
    IsGraphic c := by
  have valid := toNat_bounds meant
  have escapes := escapes_escapeChar true meant
  generalize escapeChar true meant = text at escapes member
  cases escapes with
  | short letter other stands graphic =>
      simp only [List.mem_cons, List.not_mem_nil, or_false] at member
      rcases member with rfl | rfl
      · decide
      · exact graphic
  | basic small => exact isGraphic_of_mem_unitEscape small member
  | above large =>
      rcases List.mem_append.mp member with leading | trailing
      · exact isGraphic_of_mem_unitEscape (by omega) leading
      · exact isGraphic_of_mem_unitEscape (by omega) trailing
  | plain quote backslash control graphic =>
      obtain rfl := List.mem_singleton.mp member
      exact ⟨control, graphic rfl⟩

theorem isGraphic_of_mem_writeText {c : Char} {text : Text} (member : c ∈ writeText true text) :
    IsGraphic c := by
  simp only [writeText, List.cons_append, List.mem_cons, List.mem_append, List.mem_flatMap,
    List.not_mem_nil, or_false] at member
  rcases member with rfl | ⟨meant, -, member⟩ | rfl
  · decide
  · exact isGraphic_of_mem_escapeChar member
  · decide

end DocScan.Json
