import DocScan.Codec.Utf16
import DocScan.Proofs.Codec.Utf8

/-!
# Decoding UTF-16

Octets are text in UTF-16 exactly when they are the octets of the code units of its characters. Two
octets make a unit, and what is still to be spelled between units depends on nothing but the leading
surrogate that waits for its trail.
-/

namespace DocScan.Codec.Utf16

/-! ## Code units -/

/-- The leading surrogate of a character above the basic plane. -/
def leading (c : Char) : Nat := 0xD800 + (c.toNat - 0x10000) / 0x400

def trailing (c : Char) : Nat := 0xDC00 + (c.toNat - 0x10000) % 0x400

def units (c : Char) : List Nat :=
  if c.toNat < 0x10000 then [c.toNat] else [leading c, trailing c]

def Order.octets : Order → Nat → Bytes
  | .littleEndian, unit => [UInt8.ofNat (unit % 0x100), UInt8.ofNat (unit / 0x100)]
  | .bigEndian, unit => [UInt8.ofNat (unit / 0x100), UInt8.ofNat (unit % 0x100)]

def encode (order : Order) (text : Text) : Bytes := (text.flatMap units).flatMap order.octets

theorem unit_lt (order : Order) (first second : UInt8) : order.unit first second < 0x10000 := by
  have small := first.toNat_lt
  have small' := second.toNat_lt
  cases order <;> simp only [Order.unit] <;> omega

theorem cons_cons_eq_octets_append_iff (order : Order) {unit : Nat} (small : unit < 0x10000)
    (first second : UInt8) (octets others : Bytes) :
    first :: second :: octets = order.octets unit ++ others ↔
      order.unit first second = unit ∧ octets = others := by
  have few := first.toNat_lt
  have few' := second.toNat_lt
  have low (octet : UInt8) : octet = UInt8.ofNat (unit % 0x100) ↔ octet.toNat = unit % 0x100 :=
    eq_ofNat_iff (by omega)
  have high (octet : UInt8) : octet = UInt8.ofNat (unit / 0x100) ↔ octet.toNat = unit / 0x100 :=
    eq_ofNat_iff (by omega)
  cases order with
  | littleEndian =>
      simp only [Order.octets, Order.unit, List.cons_append, List.nil_append, List.cons.injEq, low,
        high, ← and_assoc]
      exact and_congr_left fun _ => by omega
  | bigEndian =>
      simp only [Order.octets, Order.unit, List.cons_append, List.nil_append, List.cons.injEq, low,
        high, ← and_assoc]
      exact and_congr_left fun _ => by omega

theorem length_octets (order : Order) (unit : Nat) : (order.octets unit).length = 2 := by
  cases order <;> rfl

theorem length_encode (order : Order) (text : Text) :
    (encode order text).length = 2 * (text.flatMap units).length := by
  unfold encode
  induction text.flatMap units with
  | nil => rfl
  | cons unit units ih =>
      rw [List.flatMap_cons, List.length_append, length_octets, ih, List.length_cons]
      omega

theorem encode_eq_nil_iff (order : Order) (text : Text) : encode order text = [] ↔ text = [] := by
  rw [← List.length_eq_zero_iff, length_encode]
  cases text with
  | nil => simp
  | cons c rest =>
      have some : 0 < (units c).length := by
        unfold units
        split <;> exact Nat.zero_lt_succ _
      simp only [List.flatMap_cons, List.length_append, List.cons_ne_nil, iff_false]
      omega

theorem encode_cons (order : Order) (c : Char) (text : Text) :
    encode order (c :: text) = (units c).flatMap order.octets ++ encode order text := by
  rw [encode, List.flatMap_cons, List.flatMap_append, encode]

theorem encode_basic (order : Order) {c : Char} (basic : c.toNat < 0x10000) (text : Text) :
    encode order (c :: text) = order.octets c.toNat ++ encode order text := by
  rw [encode_cons, units, if_pos basic, List.flatMap_singleton]

theorem encode_above (order : Order) {c : Char} (above : ¬ c.toNat < 0x10000) (text : Text) :
    encode order (c :: text) =
      order.octets (leading c) ++ (order.octets (trailing c) ++ encode order text) := by
  rw [encode_cons, units, if_neg above]
  simp

/-! ## What is still to be spelled -/

/-- The octets, behind a leading surrogate that waits for its trail, are those of the text. -/
def Remains (order : Order) : Option Lead → Bytes → Text → Prop
  | none, octets, text => octets = encode order text
  | some lead, octets, text =>
    ∃ c rest, text = c :: rest ∧ ¬ c.toNat < 0x10000 ∧ leading c = lead.value ∧
      octets = order.octets (trailing c) ++ encode order rest

theorem remains_none_cons_iff (order : Order) (half : Half) (first second : UInt8)
    (octets : Bytes) (text : Text) :
    Remains order none (first :: second :: octets) text ↔
      let unit := order.unit first second
      if 0xD800 ≤ unit ∧ unit ≤ 0xDBFF then
        Remains order (some { half, value := unit }) octets text
      else ¬ (0xDC00 ≤ unit ∧ unit ≤ 0xDFFF) ∧
        ∃ rest, text = Char.ofNat unit :: rest ∧ octets = encode order rest := by
  have small := unit_lt order first second
  have split {unit : Nat} (small : unit < 0x10000) {others : Bytes} :=
    cons_cons_eq_octets_append_iff order small first second octets others
  dsimp only [Remains]
  constructor
  · intro spelled
    cases text with
    | nil => cases spelled
    | cons c rest =>
        have valid := toNat_bounds c
        by_cases basic : c.toNat < 0x10000
        · rw [encode_basic order basic, split basic] at spelled
          obtain ⟨same, rfl⟩ := spelled
          rw [same, if_neg (by omega), Char.ofNat_toNat]
          exact ⟨by omega, rest, rfl, rfl⟩
        · have lead : 0xD800 ≤ leading c ∧ leading c ≤ 0xDBFF := by unfold leading; omega
          rw [encode_above order basic, split (by omega)] at spelled
          obtain ⟨same, rfl⟩ := spelled
          rw [same, if_pos lead]
          exact ⟨c, rest, rfl, basic, rfl, rfl⟩
  · split
    case isTrue =>
      rintro ⟨c, rest, rfl, above, same, rfl⟩
      rw [encode_above order above, split (by omega)]
      exact ⟨same.symm, rfl⟩
    case isFalse noLead =>
      rintro ⟨noTrail, rest, rfl, rfl⟩
      have toNat : (Char.ofNat (order.unit first second)).toNat = order.unit first second :=
        toNat_ofNat (by unfold Nat.isValidChar; omega)
      rw [encode_basic order (by omega), split (by omega)]
      exact ⟨toNat.symm, rfl⟩

def Lead.Sound (lead : Lead) : Prop := 0xD800 ≤ lead.value ∧ lead.value ≤ 0xDBFF

theorem remains_some_cons_iff (order : Order) {lead : Lead} (sound : lead.Sound)
    (first second : UInt8) (octets : Bytes) (text : Text) :
    Remains order (some lead) (first :: second :: octets) text ↔
      let unit := order.unit first second
      (0xDC00 ≤ unit ∧ unit ≤ 0xDFFF) ∧
        ∃ rest, octets = encode order rest ∧
          text =
            Char.ofNat (0x10000 + (lead.value - 0xD800) * 0x400 + (unit - 0xDC00)) :: rest := by
  obtain ⟨least, most⟩ := sound
  have split {unit : Nat} (small : unit < 0x10000) {others : Bytes} :=
    cons_cons_eq_octets_append_iff order small first second octets others
  dsimp only [Remains]
  constructor
  · rintro ⟨c, rest, rfl, above, leads, spelled⟩
    have valid := toNat_bounds c
    have trails : trailing c < 0x10000 := by unfold trailing; omega
    obtain ⟨same, rfl⟩ := (split trails).mp spelled
    rw [same, ← leads]
    unfold leading trailing
    have whole : 0x10000 + (0xD800 + (c.toNat - 0x10000) / 0x400 - 0xD800) * 0x400 +
        (0xDC00 + (c.toNat - 0x10000) % 0x400 - 0xDC00) = c.toNat := by
      omega
    rw [whole, Char.ofNat_toNat]
    exact ⟨by omega, rest, rfl, rfl⟩
  · rintro ⟨trail, rest, rfl, rfl⟩
    generalize code :
      0x10000 + (lead.value - 0xD800) * 0x400 + (order.unit first second - 0xDC00) = whole
    have toNat : (Char.ofNat whole).toNat = whole :=
      toNat_ofNat (by unfold Nat.isValidChar; omega)
    refine ⟨_, rest, rfl, by omega, ?_, (split ?_).mpr ⟨?_, rfl⟩⟩
    all_goals
      simp only [leading, trailing, toNat]
      omega

/-! ## Steps and runs -/

def State.Spells (order : Order) (state : State) (octets : Bytes) (text : Text) : Prop :=
  ∃ rest, text = state.reversed.reverse ++ rest ∧ Remains order state.lead octets rest

structure State.Whole (state : State) : Prop where
  half : state.half = none
  lead : ∀ lead ∈ state.lead, lead.Sound

def State.opened (state : State) (octet : UInt8) : State :=
  { state with
    position := state.position + 1
    half := some { position := state.position, octet } }

theorem step_first (order : Order) {state : State} (whole : state.half = none) (octet : UInt8) :
    step order state octet = .ok (state.opened octet) := by
  rw [step, whole]
  rfl

theorem step_second (order : Order) (state : State) (first second : UInt8) :
    step order (state.opened first) second =
      (state.opened first).takeUnit order { position := state.position, octet := first }
        (order.unit first second) := rfl

theorem whole_takeUnit {order : Order} {state next : State} {half : Half} {unit : Nat}
    (taken : state.takeUnit order half unit = .ok next) : next.Whole := by
  unfold State.takeUnit at taken
  split at taken
  · split at taken
    · obtain rfl := Except.ok.inj taken
      exact ⟨rfl, fun _ member => nomatch member⟩
    · cases taken
  · split at taken
    · rename_i leads
      obtain rfl := Except.ok.inj taken
      exact ⟨rfl, by rintro _ ⟨⟩; exact leads⟩
    · split at taken
      · cases taken
      · obtain rfl := Except.ok.inj taken
        exact ⟨rfl, fun _ member => nomatch member⟩

theorem spells_cons_iff (order : Order) {state : State} (sound : ∀ lead ∈ state.lead, lead.Sound)
    (half : Half) (first second : UInt8) (octets : Bytes) (text : Text) :
    State.Spells order state (first :: second :: octets) text ↔
      ∃ next, state.takeUnit order half (order.unit first second) = .ok next ∧
        State.Spells order next octets text := by
  obtain ⟨position, reversed, pending, none | lead⟩ := state
  · simp only [State.Spells, remains_none_cons_iff order half, State.takeUnit]
    split
    · simp
    · split <;> simp_all [Remains]
  · simp only [State.Spells, remains_some_cons_iff order (sound lead rfl), State.takeUnit]
    generalize order.unit first second = unit
    by_cases trails : 0xDC00 ≤ unit ∧ unit ≤ 0xDFFF
    · simp [trails, Remains, and_comm]
    · rw [if_neg trails]
      simp only [trails, false_and, and_false, exists_false, reduceCtorEq]

theorem spells_nil_iff (order : Order) {state : State} (whole : state.half = none) (text : Text) :
    State.Spells order state [] text ↔ state.finish order = .ok text := by
  obtain ⟨position, reversed, pending, none | lead⟩ := state
  · obtain rfl : pending = none := whole
    have empty (rest : Text) : [] = encode order rest ↔ rest = [] :=
      eq_comm.trans (encode_eq_nil_iff order rest)
    simp only [State.Spells, Remains, empty, exists_eq_right, List.append_nil, State.finish,
      Except.ok.injEq]
    exact eq_comm
  · have some (unit : Nat) (others : Bytes) : [] ≠ order.octets unit ++ others := by
      cases order <;> exact (List.cons_ne_nil _ _).symm
    simp [State.Spells, Remains, State.finish, some]

theorem even_of_spells {order : Order} {state : State} {octets : Bytes} {text : Text}
    (spells : State.Spells order state octets text) : octets.length % 2 = 0 := by
  obtain ⟨position, reversed, half, none | lead⟩ := state
  · obtain ⟨rest, -, rfl⟩ := spells
    rw [length_encode, Nat.mul_mod_right]
  · obtain ⟨-, -, c, rest, -, -, -, rfl⟩ := spells
    rw [List.length_append, length_octets, length_encode]
    omega

theorem finish_opened_ne_ok (order : Order) (state : State) (octet : UInt8) (text : Text) :
    (state.opened octet).finish order ≠ .ok text := by
  obtain ⟨position, reversed, half, none | lead⟩ := state <;> nofun

theorem fold_eq_ok_iff (order : Order) :
    ∀ (octets : Bytes) {state : State}, state.Whole → ∀ text,
      (octets.foldlM (step order) state).bind (State.finish order) = .ok text ↔
        State.Spells order state octets text
  | [], state, whole, text => (spells_nil_iff order whole.half text).symm
  | [octet], state, whole, text => by
      -- Half a unit is left over, while the octets of a text come in pairs.
      refine iff_of_false ?_ fun spells => absurd (even_of_spells spells) (by simp)
      simp only [List.foldlM_cons, step_first order whole.half]
      exact finish_opened_ne_ok order state octet text
  | first :: second :: octets, state, whole, text => by
      have same : State.Spells order state (first :: second :: octets) text ↔
          State.Spells order (state.opened first) (first :: second :: octets) text := Iff.rfl
      have lead : ∀ lead ∈ (state.opened first).lead, lead.Sound := whole.lead
      rw [same, spells_cons_iff order lead { position := state.position, octet := first },
        List.foldlM_cons, step_first order whole.half, ← step_second]
      change ((second :: octets).foldlM (step order) (state.opened first)).bind _ = _ ↔ _
      rw [List.foldlM_cons]
      cases result : step order (state.opened first) second with
      | error fault => simp [bind, Except.bind]
      | ok next =>
          simp only [Except.ok.injEq, exists_eq_left']
          exact fold_eq_ok_iff order octets (whole_takeUnit result) text

theorem decodeFrom_eq_ok_iff (order : Order) (position : Nat) (octets : Bytes) (text : Text) :
    decodeFrom order position octets = .ok text ↔ octets = encode order text := by
  have whole : State.Whole { position } := ⟨rfl, fun _ member => nomatch member⟩
  refine (fold_eq_ok_iff order octets whole text).trans ?_
  simp [State.Spells, Remains]

end DocScan.Codec.Utf16
