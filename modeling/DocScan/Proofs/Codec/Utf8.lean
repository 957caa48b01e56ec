import DocScan.Codec.Utf8
import Mathlib.Algebra.Group.Nat.Defs
import Mathlib.Data.List.Basic

/-!
# Decoding UTF-8

Octets are text in UTF-8 exactly when they are the octets of its characters, one after the other.
The decoder takes one octet at a time, and what it still has to see to spell a text depends on the
character in progress alone: the octets that are owed, within the range of the next one, and then
the octets of the characters behind it.
-/

namespace DocScan.Codec

theorem eq_ofNat_iff {octet : UInt8} {value : Nat} (small : value < 0x100) :
    octet = UInt8.ofNat value ↔ octet.toNat = value := by
  rw [← UInt8.toNat_inj, UInt8.toNat_ofNat', Nat.mod_eq_of_lt small]

theorem toNat_ofNat {code : Nat} (valid : code.isValidChar) : (Char.ofNat code).toNat = code := by
  rw [Char.ofNat, dif_pos valid]
  rfl

theorem toNat_bounds (c : Char) : c.toNat < 0xD800 ∨ 0xDFFF < c.toNat ∧ c.toNat < 0x110000 :=
  c.valid

namespace Utf8

def encode (text : Text) : Bytes := text.flatMap String.utf8EncodeChar

theorem encode_cons (c : Char) (text : Text) :
    encode (c :: text) = String.utf8EncodeChar c ++ encode text :=
  List.flatMap_cons

/-! ## Characters in progress -/

/-- The last octets of the character of a code, six bits each. -/
def continuation : Nat → Nat → Bytes
  | 0, _ => []
  | owed + 1, code => UInt8.ofNat (code / 0x40 ^ owed % 0x40 + 0x80) :: continuation owed code

namespace Sequence

/-- The octets of the code that are owed may follow those so far. -/
def Allows (sequence : Sequence) (code : Nat) : Prop :=
  code / 0x40 ^ sequence.owed = sequence.value ∧
    sequence.low ≤ code / 0x40 ^ (sequence.owed - 1) % 0x40 + 0x80 ∧
    code / 0x40 ^ (sequence.owed - 1) % 0x40 + 0x80 ≤ sequence.high

/-- Whatever continues the sequence to its end makes it the code of a character. -/
structure Sound (sequence : Sequence) : Prop where
  owed : 0 < sequence.owed
  low : 0x80 ≤ sequence.low
  high : sequence.high ≤ 0xBF
  valid : ∀ code, sequence.Allows code → code.isValidChar

theorem Sound.allows_next_iff {sequence : Sequence} (sound : sequence.Sound) {owed : Nat}
    (owes : sequence.owed = owed + 1) (octet : UInt8) (code : Nat) :
    sequence.Allows code ∧ octet = UInt8.ofNat (code / 0x40 ^ owed % 0x40 + 0x80) ↔
      ¬ (octet.toNat < sequence.low ∨ sequence.high < octet.toNat) ∧
        code / 0x40 ^ owed = sequence.value * 0x40 + (octet.toNat - 0x80) := by
  have low := sound.low
  have high := sound.high
  rw [eq_ofNat_iff (by omega), Allows, owes, Nat.add_sub_cancel, Nat.pow_succ,
    ← Nat.div_div_eq_div_mul]
  omega

theorem Sound.isValidChar {sequence : Sequence} (sound : sequence.Sound)
    (owes : sequence.owed = 1) {octet : UInt8}
    (fits : ¬ (octet.toNat < sequence.low ∨ sequence.high < octet.toNat)) :
    (sequence.value * 0x40 + (octet.toNat - 0x80)).isValidChar :=
  sound.valid _ ((sound.allows_next_iff owes octet _).mpr ⟨fits, Nat.div_one _⟩).1

def next (sequence : Sequence) (octet : UInt8) : Sequence :=
  { start := sequence.start, lead := sequence.lead
    value := sequence.value * 0x40 + (octet.toNat - 0x80), owed := sequence.owed - 1 }

theorem next_allows_iff (sequence : Sequence) {owed : Nat} (owes : sequence.owed = owed + 1)
    (octet : UInt8) (code : Nat) :
    (sequence.next octet).Allows code ↔
      code / 0x40 ^ owed = sequence.value * 0x40 + (octet.toNat - 0x80) := by
  simp only [Allows, next, owes, Nat.add_sub_cancel]
  omega

theorem Sound.next {sequence : Sequence} (sound : sequence.Sound) (several : 1 < sequence.owed)
    {octet : UInt8} (fits : ¬ (octet.toNat < sequence.low ∨ sequence.high < octet.toNat)) :
    (sequence.next octet).Sound :=
  { owed := Nat.sub_pos_of_lt several
    low := Nat.le_refl _
    high := Nat.le_refl _
    valid := by
      intro code allowed
      obtain ⟨owed, owes⟩ := Nat.exists_eq_add_of_le' sound.owed
      have value := (sequence.next_allows_iff owes octet code).mp allowed
      exact sound.valid code ((sound.allows_next_iff owes octet code).mpr ⟨fits, value⟩).1 }

/-! ## Leads -/

/-- What is known of a sequence by the number of octets behind its lead. The range of the next octet
keeps out what has a shorter spelling, surrogates and what is beyond the last code. -/
theorem ofLead?_cases {start : Nat} {lead : UInt8} {sequence : Sequence}
    (begun : ofLead? start lead = some sequence) :
    (sequence.owed = 1 ∧ sequence.value + 0xC0 = lead.toNat ∧ 0xC2 ≤ lead.toNat ∧
      lead.toNat < 0xE0 ∧ sequence.low = 0x80 ∧ sequence.high = 0xBF) ∨
    (sequence.owed = 2 ∧ sequence.value + 0xE0 = lead.toNat ∧ lead.toNat < 0xF0 ∧
      0x80 ≤ sequence.low ∧ (lead.toNat = 0xE0 → sequence.low = 0xA0) ∧
      sequence.high ≤ 0xBF ∧ (lead.toNat = 0xED → sequence.high = 0x9F)) ∨
    (sequence.owed = 3 ∧ sequence.value + 0xF0 = lead.toNat ∧ lead.toNat < 0xF5 ∧
      0x80 ≤ sequence.low ∧ (lead.toNat = 0xF0 → sequence.low = 0x90) ∧
      sequence.high ≤ 0xBF ∧ (lead.toNat = 0xF4 → sequence.high = 0x8F)) := by
  simp only [ofLead?] at begun
  split at begun
  · cases begun
  split at begun
  · obtain rfl := Option.some.inj begun
    exact .inl ⟨rfl, by dsimp only; omega, by omega, by omega, rfl, rfl⟩
  split at begun
  · obtain rfl := Option.some.inj begun
    refine .inr (.inl ⟨rfl, by dsimp only; omega, by omega, ?_⟩)
    dsimp only
    split_ifs <;> omega
  split at begun
  · obtain rfl := Option.some.inj begun
    refine .inr (.inr ⟨rfl, by dsimp only; omega, by omega, ?_⟩)
    dsimp only
    split_ifs <;> omega
  · cases begun

theorem sound_ofLead? {start : Nat} {lead : UInt8} {sequence : Sequence}
    (begun : ofLead? start lead = some sequence) : sequence.Sound := by
  obtain ⟨owed, facts⟩ | ⟨owed, facts⟩ | ⟨owed, facts⟩ := ofLead?_cases begun
  all_goals
    refine ⟨by omega, by omega, by omega, fun code allowed => ?_⟩
    simp only [Allows, owed, Nat.reduceSub] at allowed
    unfold Nat.isValidChar
    omega

/-- The octets of a character behind its lead are those that the lead owes. -/
theorem utf8EncodeChar_eq {start : Nat} {lead : UInt8} {sequence : Sequence}
    (begun : ofLead? start lead = some sequence) {c : Char} (allowed : sequence.Allows c.toNat) :
    String.utf8EncodeChar c = lead :: continuation sequence.owed c.toNat := by
  unfold String.utf8EncodeChar
  rw [Char.toNat_val]
  obtain ⟨owed, facts⟩ | ⟨owed, facts⟩ | ⟨owed, facts⟩ := ofLead?_cases begun
  all_goals
    simp only [Allows, owed, Nat.reduceSub, Nat.reducePow] at allowed
    have leads {value : Nat} (same : lead.toNat = value) : UInt8.ofNat value = lead := by
      rw [← same, UInt8.ofNat_toNat]
    simp only [owed, continuation, Nat.reducePow, Nat.div_one]
  · rw [if_neg (by omega), if_pos (by omega), leads (by omega)]
  · rw [if_neg (by omega), if_neg (by omega), if_pos (by omega), leads (by omega)]
  · rw [if_neg (by omega), if_neg (by omega), if_neg (by omega), leads (by omega)]

theorem exists_ofLead? (start : Nat) {c : Char} (several : 0x80 ≤ c.toNat) :
    ∃ lead sequence, ofLead? start lead = some sequence ∧ sequence.Allows c.toNat := by
  have valid := toNat_bounds c
  by_cases two : c.toNat < 0x800
  · have lead := UInt8.toNat_ofNat_of_lt' (by omega : 0xC0 + c.toNat / 0x40 < 0x100)
    refine ⟨_, _, by rw [ofLead?, lead, if_neg (by omega), if_pos (by omega)], ?_⟩
    simp only [Allows, Nat.add_sub_cancel_left, Nat.reduceSub, Nat.reducePow, true_and]
    omega
  by_cases three : c.toNat < 0x10000
  · have lead := UInt8.toNat_ofNat_of_lt' (by omega : 0xE0 + c.toNat / 0x1000 < 0x100)
    refine ⟨_, _, by
      rw [ofLead?, lead, if_neg (by omega), if_neg (by omega), if_pos (by omega)], ?_⟩
    simp only [Allows, Nat.add_sub_cancel_left, Nat.reduceSub, Nat.reducePow, true_and]
    split_ifs <;> omega
  · have lead := UInt8.toNat_ofNat_of_lt' (by omega : 0xF0 + c.toNat / 0x40000 < 0x100)
    refine ⟨_, _, by
      rw [ofLead?, lead, if_neg (by omega), if_neg (by omega), if_neg (by omega),
        if_pos (by omega)], ?_⟩
    simp only [Allows, Nat.add_sub_cancel_left, Nat.reduceSub, Nat.reducePow, true_and]
    split_ifs <;> omega

end Sequence

/-! ## What is still to be spelled -/

/-- The octets, behind what the character in progress has had, are those of the text. -/
def Remains : Option Sequence → Bytes → Text → Prop
  | none, octets, text => octets = encode text
  | some sequence, octets, text =>
    ∃ c rest, text = c :: rest ∧ sequence.Allows c.toNat ∧
      octets = continuation sequence.owed c.toNat ++ encode rest

theorem utf8EncodeChar_ascii {c : Char} (ascii : c.toNat < 0x80) :
    String.utf8EncodeChar c = [UInt8.ofNat c.toNat] := by
  unfold String.utf8EncodeChar
  rw [Char.toNat_val, if_pos (by omega)]

theorem remains_none_cons_iff (start : Nat) (octet : UInt8) (octets : Bytes) (text : Text) :
    Remains none (octet :: octets) text ↔
      if octet.toNat < 0x80 then
        ∃ rest, text = Char.ofNat octet.toNat :: rest ∧ octets = encode rest
      else ∃ sequence, Sequence.ofLead? start octet = some sequence ∧
        Remains (some sequence) octets text := by
  constructor
  · intro spelled
    cases text with
    | nil => cases spelled
    | cons c rest =>
        rw [Remains, encode_cons] at spelled
        by_cases ascii : c.toNat < 0x80
        · rw [utf8EncodeChar_ascii ascii] at spelled
          obtain ⟨rfl, rfl⟩ := List.cons.inj spelled
          rw [UInt8.toNat_ofNat', Nat.mod_eq_of_lt (by omega), if_pos ascii, Char.ofNat_toNat]
          exact ⟨rest, rfl, rfl⟩
        · obtain ⟨lead, sequence, begun, allowed⟩ :=
            Sequence.exists_ofLead? start (Nat.le_of_not_lt ascii)
          rw [Sequence.utf8EncodeChar_eq begun allowed] at spelled
          obtain ⟨rfl, rfl⟩ := List.cons.inj spelled
          have large : ¬ octet.toNat < 0x80 := by
            have cases := Sequence.ofLead?_cases begun
            omega
          rw [if_neg large]
          exact ⟨sequence, begun, c, rest, rfl, allowed, rfl⟩
  · split
    case isTrue ascii =>
      rintro ⟨rest, rfl, rfl⟩
      have toNat : (Char.ofNat octet.toNat).toNat = octet.toNat := toNat_ofNat (.inl (by omega))
      rw [Remains, encode_cons, utf8EncodeChar_ascii (by omega), toNat, UInt8.ofNat_toNat]
      rfl
    case isFalse =>
      rintro ⟨sequence, begun, c, rest, rfl, allowed, rfl⟩
      rw [Remains, encode_cons, Sequence.utf8EncodeChar_eq begun allowed]
      rfl

theorem remains_some_cons_iff {sequence : Sequence} (sound : sequence.Sound) (octet : UInt8)
    (octets : Bytes) (text : Text) :
    Remains (some sequence) (octet :: octets) text ↔
      ¬ (octet.toNat < sequence.low ∨ sequence.high < octet.toNat) ∧
        if sequence.owed ≤ 1 then
          ∃ rest, octets = encode rest ∧
            text = Char.ofNat (sequence.value * 0x40 + (octet.toNat - 0x80)) :: rest
        else Remains (some (sequence.next octet)) octets text := by
  obtain ⟨owed, owes⟩ := Nat.exists_eq_add_of_le' sound.owed
  have split : Remains (some sequence) (octet :: octets) text ↔
      ¬ (octet.toNat < sequence.low ∨ sequence.high < octet.toNat) ∧
        ∃ c rest, text = c :: rest ∧ (sequence.next octet).Allows c.toNat ∧
          octets = continuation owed c.toNat ++ encode rest := by
    simp only [Remains, owes, continuation, List.cons_append, List.cons.injEq,
      sequence.next_allows_iff owes]
    constructor
    · rintro ⟨c, rest, rfl, allowed, same, others⟩
      obtain ⟨fits, value⟩ := (sound.allows_next_iff owes octet c.toNat).mp ⟨allowed, same⟩
      exact ⟨fits, c, rest, rfl, value, others⟩
    · rintro ⟨fits, c, rest, rfl, value, others⟩
      obtain ⟨allowed, same⟩ := (sound.allows_next_iff owes octet c.toNat).mpr ⟨fits, value⟩
      exact ⟨c, rest, rfl, allowed, same, others⟩
  rw [split]
  refine and_congr_right fun fits => ?_
  cases owed with
  | zero =>
      have toNat := toNat_ofNat (sound.isValidChar owes fits)
      simp only [if_pos (Nat.le_of_eq owes), sequence.next_allows_iff owes, Nat.pow_zero,
        Nat.div_one]
      constructor
      · rintro ⟨c, rest, rfl, value, rfl⟩
        exact ⟨rest, rfl, by rw [← value, Char.ofNat_toNat]⟩
      · rintro ⟨rest, rfl, rfl⟩
        exact ⟨_, rest, rfl, toNat, rfl⟩
  | succ owed =>
      have owesNext : (sequence.next octet).owed = owed + 1 := by simp [Sequence.next, owes]
      rw [if_neg (by omega), Remains, owesNext]

theorem encode_eq_nil_iff (text : Text) : encode text = [] ↔ text = [] := by
  cases text with
  | nil => exact iff_of_true rfl rfl
  | cons c rest =>
      have some : String.utf8EncodeChar c ≠ [] := by
        rw [← List.length_pos_iff_ne_nil, String.length_utf8EncodeChar]
        exact Char.utf8Size_pos c
      simp [encode_cons, some]

/-! ## Steps and runs -/

def State.Sound (state : State) : Prop := ∀ sequence ∈ state.sequence, sequence.Sound

def State.Spells (state : State) (octets : Bytes) (text : Text) : Prop :=
  ∃ rest, text = state.reversed.reverse ++ rest ∧ Remains state.sequence octets rest

theorem sound_of_idle {state : State} (idle : state.sequence = none) : state.Sound := by
  intro sequence member
  rw [idle] at member
  cases member

theorem sound_step {state next : State} {octet : UInt8} (sound : state.Sound)
    (stepped : step state octet = .ok next) : next.Sound := by
  obtain ⟨position, reversed, none | sequence⟩ := state
  · simp only [step] at stepped
    split at stepped
    · obtain rfl := Except.ok.inj stepped
      exact sound_of_idle rfl
    · split at stepped
      · rename_i begun
        obtain rfl := Except.ok.inj stepped
        exact fun _ member => Option.mem_some.mp member ▸ Sequence.sound_ofLead? begun
      · cases stepped
  · have sound := sound sequence rfl
    simp only [step] at stepped
    split at stepped
    · cases stepped
    · rename_i fits
      split at stepped
      · obtain rfl := Except.ok.inj stepped
        exact sound_of_idle rfl
      · rename_i several
        obtain rfl := Except.ok.inj stepped
        rintro _ ⟨⟩
        exact sound.next (Nat.lt_of_not_le several) fits

theorem spells_cons_iff {state : State} (sound : state.Sound) (octet : UInt8) (octets : Bytes)
    (text : Text) :
    state.Spells (octet :: octets) text ↔
      ∃ next, step state octet = .ok next ∧ next.Spells octets text := by
  obtain ⟨position, reversed, none | sequence⟩ := state
  · simp only [State.Spells, remains_none_cons_iff position, step]
    split
    case isTrue => simp [Remains]
    case isFalse =>
      cases begun : Sequence.ofLead? position octet with
      | none => simp
      | some sequence => simp
  · have sound := sound sequence rfl
    simp only [State.Spells, remains_some_cons_iff sound, step]
    by_cases misfit : octet.toNat < sequence.low ∨ sequence.high < octet.toNat
    · simp [misfit]
    · by_cases last : sequence.owed ≤ 1
      · simp only [misfit, last, not_false_eq_true, true_and, if_true, if_false]
        simp [Remains, and_comm]
      · simp only [misfit, last, not_false_eq_true, true_and, if_false]
        simp [Sequence.next]

theorem spells_nil_iff {state : State} (sound : state.Sound) (text : Text) :
    state.Spells [] text ↔ state.finish = .ok text := by
  obtain ⟨position, reversed, none | sequence⟩ := state
  · have empty (rest : Text) : [] = encode rest ↔ rest = [] :=
      eq_comm.trans (encode_eq_nil_iff rest)
    simp only [State.Spells, Remains, empty, exists_eq_right, List.append_nil, State.finish,
      Except.ok.injEq]
    exact eq_comm
  · have owed := (sound sequence rfl).owed
    obtain ⟨owed, owes⟩ := Nat.exists_eq_succ_of_ne_zero (Nat.ne_of_gt owed)
    simp [State.Spells, Remains, State.finish, owes, continuation]

theorem fold_eq_ok_iff {state : State} (sound : state.Sound) (octets : Bytes) (text : Text) :
    (octets.foldlM step state).bind State.finish = .ok text ↔ state.Spells octets text := by
  -- A character may take several octets, so the induction runs from any state between two of them.
  induction octets generalizing state with
  | nil => exact (spells_nil_iff sound text).symm
  | cons octet octets ih =>
      rw [spells_cons_iff sound, List.foldlM_cons]
      cases stepped : step state octet with
      | error fault => simp [bind, Except.bind]
      | ok next =>
          simp only [Except.ok.injEq, exists_eq_left']
          exact ih (sound_step sound stepped)

theorem decode_eq_ok_iff (octets : Bytes) (text : Text) :
    decode octets = .ok text ↔ octets = encode text := by
  rw [decode_eq_fold, fold_eq_ok_iff (sound_of_idle rfl)]
  simp [State.Spells, Remains]

end Utf8

end DocScan.Codec
