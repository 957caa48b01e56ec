import DocScan.Proofs.Json.Numbers
import Mathlib.Data.List.Forall2

/-!
# Documents that are written and read

Whatever is written in a style that keeps to the standard is read again, and what is read resembles
what was written: it is the same up to floating-point numbers, of which only that they are read is
known here. Names that occur twice in an object would not survive.
-/

namespace DocScan.Json

variable {limits : Limits} {style : Style}

/-! ## Spaces and marks -/

theorem advance_spaces {state : State} (idle : state.pending = .nothing) {spaces : Text}
    (blank : spaces.all isSpace = true) (rest : Text) :
    advance limits state (spaces ++ rest) = advance limits state rest := by
  induction spaces with
  | nil => rfl
  | cons c spaces ih =>
      simp only [List.all_cons, Bool.and_eq_true] at blank
      have stays : step limits state c = .ok state := by
        rw [step_idle idle, State.between, if_pos blank.1]
      rw [List.cons_append, advance_cons stays, ih blank.2]

theorem endsNumber_of_isSpace {c : Char} (space : isSpace c = true) : EndsNumber c := by
  have cases : c = ' ' ∨ c = '\n' ∨ c = '\r' ∨ c = '\t' := by
    simpa [isSpace, or_assoc] using space
  rcases cases with rfl | rfl | rfl | rfl <;> exact ⟨rfl, by decide, by decide, by decide⟩

theorem deliver_idle (value : Value) (frames : List Frame) :
    (deliver value frames).pending = .nothing := by
  rcases frames with _ | ⟨_ | _, _⟩ <;> rfl

/-- A value up to the mark behind it, which spaces may come in front of. -/
theorem Spells.advance_mark {depth : Nat} {text spaces : Text} {value : Value}
    (spells : Spells limits depth text value) {state next : State} (awaits : state.AwaitsValue)
    (deep : state.frames.length = depth) (blank : spaces.all isSpace = true) {mark : Char}
    (ends : EndsNumber mark) (stepped : step limits (deliver value state.frames) mark = .ok next)
    (rest : Text) :
    advance limits state (text ++ (spaces ++ mark :: rest)) = advance limits next rest := by
  have idle := deliver_idle value state.frames
  cases spaces with
  | nil => exact spells state mark next rest awaits deep ends stepped
  | cons c spaces =>
      simp only [List.all_cons, Bool.and_eq_true] at blank
      have stays : step limits (deliver value state.frames) c =
          .ok (deliver value state.frames) := by
        rw [step_idle idle, State.between, if_pos blank.1]
      rw [List.cons_append, spells state c _ _ awaits deep (endsNumber_of_isSpace blank.1) stays,
        advance_spaces idle blank.2, advance_cons stepped]

theorem endsNumber_comma : EndsNumber ',' := ⟨rfl, by decide, by decide, by decide⟩

/-- The mark and the spaces behind it. -/
def SpacedMark (mark : Char) (text : Text) : Prop :=
  ∃ spaces, text = mark :: spaces ∧ spaces.all isSpace = true

/-! ## Arrays -/

theorem advance_items {depth : Nat} {frames : List Frame} (deep : frames.length = depth)
    {between behind : Text} (marks : SpacedMark ',' between) (blank : behind.all isSpace = true)
    {texts : List Text} {readings : List Value}
    (spells : List.Forall₂ (Spells limits (depth + 1)) texts readings) (some : texts ≠ [])
    (reversed : List Value) {goal : Goal} (awaits : goal = .value ∨ goal = .valueOrEnd)
    (rest : Text) :
    advance limits { pending := .nothing, frames := .array reversed :: frames, goal }
        (Text.join between texts ++ (behind ++ ']' :: rest)) =
      advance limits (deliver (.array (reversed.reverse ++ readings)) frames) rest := by
  -- What has been read is kept in the frame, so the induction runs over what is left.
  induction spells generalizing reversed goal with
  | nil => exact absurd rfl some
  | @cons text reading texts readings first others ih =>
      have deeper : (Frame.array reversed :: frames).length = depth + 1 := by simp [deep]
      cases others with
      | nil =>
          have closed : step limits (deliver reading (.array reversed :: frames)) ']' =
              .ok (deliver (.array (reading :: reversed).reverse) frames) := rfl
          rw [Text.join, first.advance_mark ⟨rfl, awaits⟩ deeper blank
            ⟨rfl, by decide, by decide, by decide⟩ closed, List.reverse_cons]
      | @cons second reading' texts readings' next others =>
          obtain ⟨spaces, rfl, spaced⟩ := marks
          have more : step limits (deliver reading (.array reversed :: frames)) ',' =
              .ok { pending := .nothing, frames := .array (reading :: reversed) :: frames
                    goal := .value } := rfl
          have tail := ih (List.cons_ne_nil _ _) (reading :: reversed) (.inl rfl)
          rw [Text.join, List.append_assoc, List.append_assoc, List.cons_append,
            first _ _ _ _ ⟨rfl, awaits⟩ deeper endsNumber_comma more,
            advance_spaces rfl spaced, tail, List.reverse_cons, List.append_assoc]
          rfl

/-! ## Objects -/

/-- The text is a member of that name whose value it spells. -/
def SpellsMember (limits : Limits) (depth : Nat) (style : Style) (text : Text)
    (member : Text × Value) : Prop :=
  ∃ content, text = writeText style.ascii member.1 ++ style.afterName ++ content ∧
    Spells limits depth content member.2

theorem advance_name (named : SpacedMark ':' style.afterName) {frames : List Frame}
    {members : Members} {last name : Text} {goal : Goal}
    (awaits : goal = .name ∨ goal = .nameOrEnd) (rest : Text) :
    advance limits { pending := .nothing, frames := .object members last :: frames, goal }
        (writeText style.ascii name ++ style.afterName ++ rest) =
      advance limits
        { pending := .nothing, frames := .object members name :: frames, goal := .value } rest := by
  obtain ⟨spaces, after, blank⟩ := named
  have quoted : step limits
      { pending := .nothing, frames := .object members last :: frames, goal } '"' =
        .ok { pending := .text [], frames := .object members last :: frames, goal } := by
    rcases awaits with rfl | rfl <;> rfl
  have taken : ({ pending := .nothing, frames := .object members last :: frames, goal }
      : State).takeText name =
        { pending := .nothing, frames := .object members name :: frames, goal := .colon } := by
    rcases awaits with rfl | rfl <;> rfl
  have marked : step limits
      { pending := .nothing, frames := .object members name :: frames, goal := .colon } ':' =
        .ok { pending := .nothing, frames := .object members name :: frames, goal := .value } := rfl
  rw [List.append_assoc, advance_writeText _ _ _ quoted, taken, after, List.cons_append,
    advance_cons marked, advance_spaces rfl blank]

theorem advance_members {depth : Nat} {frames : List Frame} (deep : frames.length = depth)
    {between behind : Text} (named : SpacedMark ':' style.afterName)
    (marks : SpacedMark ',' between) (blank : behind.all isSpace = true) {texts : List Text}
    {readings : Members}
    (spells : List.Forall₂ (SpellsMember limits (depth + 1) style) texts readings)
    (some : texts ≠ []) (members : Members) (last : Text) {goal : Goal}
    (awaits : goal = .name ∨ goal = .nameOrEnd) (rest : Text) :
    advance limits { pending := .nothing, frames := .object members last :: frames, goal }
        (Text.join between texts ++ (behind ++ '}' :: rest)) =
      advance limits
        (deliver (.object (readings.foldl (fun members member =>
          Members.insert members member.1 member.2) members)) frames) rest := by
  induction spells generalizing members last goal with
  | nil => exact absurd rfl some
  | @cons text member texts readings first others ih =>
      obtain ⟨name, value⟩ := member
      obtain ⟨content, rfl, spells⟩ := first
      have deeper : (Frame.object members name :: frames).length = depth + 1 := by simp [deep]
      cases others with
      | nil =>
          have closed : step limits (deliver value (.object members name :: frames)) '}' =
              .ok (deliver (.object (members.insert name value)) frames) := rfl
          rw [Text.join, List.append_assoc, advance_name named awaits,
            spells.advance_mark ⟨rfl, .inl rfl⟩ deeper blank
              ⟨rfl, by decide, by decide, by decide⟩ closed]
          rfl
      | cons next others =>
          obtain ⟨spaces, rfl, spaced⟩ := marks
          have more : step limits (deliver value (.object members name :: frames)) ',' =
              .ok { pending := .nothing
                    frames := .object (members.insert name value) name :: frames
                    goal := .name } := rfl
          have tail := ih (List.cons_ne_nil _ _) (members.insert name value) name (.inl rfl)
          rw [Text.join, List.append_assoc, List.append_assoc, List.append_assoc,
            advance_name named awaits, List.cons_append,
            spells _ _ _ _ ⟨rfl, .inl rfl⟩ deeper endsNumber_comma more,
            advance_spaces rfl spaced, tail]
          rfl

/-! ## Names that occur once -/

theorem insert_of_not_mem {members : Members} {name : Text} (value : Value)
    (fresh : name ∉ members.map Prod.fst) :
    Members.insert members name value = members ++ [(name, value)] := by
  induction members with
  | nil => rfl
  | cons member members ih =>
      simp only [List.map_cons, List.mem_cons, not_or] at fresh
      have other : member.1 ≠ name := fun same => fresh.1 same.symm
      have tail := ih fresh.2
      unfold Members.insert at tail ⊢
      rw [Named.put, if_neg other, tail, List.cons_append]

theorem foldl_insert {members readings : Members}
    (distinct : ((members ++ readings).map Prod.fst).Nodup) :
    readings.foldl (fun members member => Members.insert members member.1 member.2) members =
      members ++ readings := by
  induction readings generalizing members with
  | nil => exact (List.append_nil members).symm
  | cons reading readings ih =>
      obtain ⟨name, value⟩ := reading
      have fresh : name ∉ members.map Prod.fst := by
        rw [List.map_append, List.nodup_append] at distinct
        exact fun member => distinct.2.2 _ member name (by simp) rfl
      have shifted : members ++ (name, value) :: readings =
          (members ++ [(name, value)]) ++ readings := by simp
      rw [List.foldl_cons, insert_of_not_mem value fresh, shifted]
      exact ih (shifted ▸ distinct)

/-! ## Values -/

mutual

/-- The number of containers inside each other, the innermost of which is not empty. -/
def Value.height : Value → Nat
  | .array items => itemsHeight items
  | .object members => membersHeight members
  | _ => 0

def itemsHeight : List Value → Nat
  | [] => 0
  | item :: rest => max (item.height + 1) (itemsHeight rest)

def membersHeight : List (Text × Value) → Nat
  | [] => 0
  | (_, value) :: rest => max (value.height + 1) (membersHeight rest)

end

mutual

/-- No object in the value has a name twice. -/
def Value.Distinct : Value → Prop
  | .array items => ItemsDistinct items
  | .object members => (members.map Prod.fst).Nodup ∧ MembersDistinct members
  | _ => True

def ItemsDistinct : List Value → Prop
  | [] => True
  | item :: rest => item.Distinct ∧ ItemsDistinct rest

def MembersDistinct : List (Text × Value) → Prop
  | [] => True
  | (_, value) :: rest => value.Distinct ∧ MembersDistinct rest

end

mutual

/-- The other value is the same up to floating-point numbers, in whose place anything may stand. -/
def Value.Resembles : Value → Value → Prop
  | .float _, _ => True
  | .array items, .array others => ItemsResemble items others
  | .object members, .object others => MembersResemble members others
  | value, other => value = other

def ItemsResemble : List Value → List Value → Prop
  | [], [] => True
  | item :: items, other :: others => item.Resembles other ∧ ItemsResemble items others
  | _, _ => False

def MembersResemble : List (Text × Value) → List (Text × Value) → Prop
  | [], [] => True
  | (name, value) :: members, (otherName, other) :: others =>
    name = otherName ∧ value.Resembles other ∧ MembersResemble members others
  | _, _ => False

end

theorem itemsDistinct_iff {items : List Value} :
    ItemsDistinct items ↔ ∀ item ∈ items, item.Distinct := by
  induction items with
  | nil => simp [ItemsDistinct]
  | cons item rest ih => rw [ItemsDistinct, ih, List.forall_mem_cons]

theorem membersDistinct_iff {members : Members} :
    MembersDistinct members ↔ ∀ member ∈ members, member.2.Distinct := by
  induction members with
  | nil => simp [MembersDistinct]
  | cons member rest ih => rw [MembersDistinct, ih, List.forall_mem_cons]

theorem names_of_membersResemble {members others : Members}
    (resemble : MembersResemble members others) :
    others.map Prod.fst = members.map Prod.fst := by
  induction members generalizing others with
  | nil =>
      cases others with
      | nil => rfl
      | cons => cases resemble
  | cons member members ih =>
      cases others with
      | nil => cases resemble
      | cons other others =>
          obtain ⟨name, -, rest⟩ := resemble
          rw [List.map_cons, List.map_cons, ih rest, name]

/-- The style has the marks of the standard, with spaces behind them at most. -/
structure Spaced (style : Style) : Prop where
  items : SpacedMark ',' style.betweenItems
  names : SpacedMark ':' style.afterName

/-- The style keeps to the standard, as far as a reader with these limits goes. -/
structure Readable (limits : Limits) (style : Style) : Prop extends Spaced style where
  unlimited : limits.wholePart = none
  numbers : ∀ depth number, isBeyond limits.depth depth = false →
    ∃ value, Spells limits depth (Decimal.text style.numbers number) value

theorem isBeyond_of_le {limit : Option Nat} {size larger : Nat} (le : size ≤ larger)
    (within : isBeyond limit larger = false) : isBeyond limit size = false := by
  cases limit with
  | none => rfl
  | some bound =>
      simp only [isBeyond, Option.any_some, decide_eq_false_iff_not] at within ⊢
      omega

theorem all_isSpace_newLine (style : Style) (depth : Nat) :
    (style.newLine depth).all isSpace = true := by
  unfold Style.newLine
  split
  · rfl
  · simp [isSpace]

theorem SpacedMark.append_newLine {mark : Char} {text : Text} (marks : SpacedMark mark text)
    (style : Style) (depth : Nat) : SpacedMark mark (text ++ style.newLine depth) := by
  obtain ⟨spaces, rfl, blank⟩ := marks
  exact ⟨spaces ++ style.newLine depth, rfl, by simp [blank, all_isSpace_newLine]⟩

theorem encloses_array (spaced : Spaced style) {depth k : Nat} {texts : List Text}
    {readings : List Value} (shallow : isBeyond limits.depth depth = false)
    (spells : List.Forall₂ (Spells limits (depth + 1)) texts readings) :
    Encloses limits depth (bracketed style k '[' ']' texts) (.array readings) := by
  intro state rest awaits deep
  have opened : step limits state '[' =
      .ok { pending := .nothing, frames := .array [] :: state.frames, goal := .valueOrEnd } := by
    rw [step_begin awaits (by decide) (by decide), State.begin, deep, shallow]
    rfl
  unfold bracketed
  split
  · cases spells
    have closed : step limits
        { pending := .nothing, frames := .array [] :: state.frames, goal := .valueOrEnd } ']' =
          .ok (deliver (.array []) state.frames) := rfl
    exact (advance_cons opened _).trans (advance_cons closed rest)
  · rename_i some
    have marks := spaced.items.append_newLine style (k + 1)
    have read := advance_items deep marks (all_isSpace_newLine style k) spells some []
      (.inr rfl) rest
    simp only [List.cons_append, List.append_assoc, List.nil_append]
    rw [advance_cons opened, advance_spaces rfl (all_isSpace_newLine style (k + 1)), read]
    rfl

theorem encloses_object (spaced : Spaced style) {depth k : Nat} {texts : List Text}
    {readings : Members} (shallow : isBeyond limits.depth depth = false)
    (distinct : (readings.map Prod.fst).Nodup)
    (spells : List.Forall₂ (SpellsMember limits (depth + 1) style) texts readings) :
    Encloses limits depth (bracketed style k '{' '}' texts) (.object readings) := by
  intro state rest awaits deep
  have opened : step limits state '{' =
      .ok { pending := .nothing, frames := .object [] [] :: state.frames, goal := .nameOrEnd } := by
    rw [step_begin awaits (by decide) (by decide), State.begin, deep, shallow]
    rfl
  unfold bracketed
  split
  · cases spells
    have closed : step limits
        { pending := .nothing, frames := .object [] [] :: state.frames, goal := .nameOrEnd } '}' =
          .ok (deliver (.object []) state.frames) := rfl
    exact (advance_cons opened _).trans (advance_cons closed rest)
  · rename_i some
    have marks := spaced.items.append_newLine style (k + 1)
    have read := advance_members deep spaced.names marks (all_isSpace_newLine style k) spells
      some [] [] (.inr rfl) rest
    have kept : ([] ++ readings : Members) = readings := rfl
    rw [foldl_insert (kept ▸ distinct), kept] at read
    simp only [List.cons_append, List.append_assoc, List.nil_append]
    rw [advance_cons opened, advance_spaces rfl (all_isSpace_newLine style (k + 1)), read]

theorem encloses_bool {depth k : Nat} (shallow : isBeyond limits.depth depth = false)
    (flag : Bool) : Encloses limits depth ((Value.bool flag).writeAt style k) (.bool flag) := by
  cases flag with
  | true =>
      have word : constant? 't' = some ('r' :: "ue".toList, .bool true) := rfl
      exact encloses_constant shallow word
  | false =>
      have word : constant? 'f' = some ('a' :: "lse".toList, .bool false) := rfl
      exact encloses_constant shallow word

mutual

theorem exists_spells_writeAt (readable : Readable limits style) (value : Value) (depth k : Nat)
    (distinct : value.Distinct) (shallow : isBeyond limits.depth (depth + value.height) = false) :
    ∃ reading, Spells limits depth (value.writeAt style k) reading ∧ value.Resembles reading := by
  have here : isBeyond limits.depth depth = false := isBeyond_of_le (Nat.le_add_right _ _) shallow
  match value with
  | .null =>
      have word : constant? 'n' = some ('u' :: "ll".toList, .null) := rfl
      exact ⟨.null, (encloses_constant here word).spells, rfl⟩
  | .bool flag => exact ⟨.bool flag, (encloses_bool here flag).spells, rfl⟩
  | .int number => exact ⟨.int number, spells_ofInt readable.unlimited here number, rfl⟩
  | .float number =>
      obtain ⟨reading, spells⟩ := readable.numbers depth number here
      exact ⟨reading, spells, trivial⟩
  | .text content => exact ⟨.text content, (encloses_writeText here _ content).spells, rfl⟩
  | .array items =>
      obtain ⟨readings, spells, resemble⟩ :=
        exists_spells_writeItems readable items depth (k + 1) distinct shallow
      exact ⟨.array readings, (encloses_array readable.toSpaced here spells).spells, resemble⟩
  | .object members =>
      obtain ⟨readings, spells, resemble⟩ :=
        exists_spells_writeMembers readable members depth (k + 1) distinct.2 shallow
      have names := names_of_membersResemble resemble
      have unique : (readings.map Prod.fst).Nodup := names ▸ distinct.1
      exact ⟨.object readings, (encloses_object readable.toSpaced here unique spells).spells,
        resemble⟩

theorem exists_spells_writeItems (readable : Readable limits style) (items : List Value)
    (depth k : Nat) (distinct : ItemsDistinct items)
    (shallow : isBeyond limits.depth (depth + itemsHeight items) = false) :
    ∃ readings, List.Forall₂ (Spells limits (depth + 1)) (writeItems style k items) readings ∧
      ItemsResemble items readings := by
  match items with
  | [] => exact ⟨[], .nil, trivial⟩
  | item :: rest =>
      obtain ⟨reading, spells, resembles⟩ := exists_spells_writeAt readable item (depth + 1) k
        distinct.1 (isBeyond_of_le (by simp only [itemsHeight]; omega) shallow)
      obtain ⟨readings, others, resemble⟩ := exists_spells_writeItems readable rest depth k
        distinct.2 (isBeyond_of_le (by simp only [itemsHeight]; omega) shallow)
      exact ⟨reading :: readings, .cons spells others, resembles, resemble⟩

theorem exists_spells_writeMembers (readable : Readable limits style)
    (members : List (Text × Value)) (depth k : Nat) (distinct : MembersDistinct members)
    (shallow : isBeyond limits.depth (depth + membersHeight members) = false) :
    ∃ readings, List.Forall₂ (SpellsMember limits (depth + 1) style)
        (writeMembers style k members) readings ∧ MembersResemble members readings := by
  match members with
  | [] => exact ⟨[], .nil, trivial⟩
  | (name, value) :: rest =>
      obtain ⟨reading, spells, resembles⟩ := exists_spells_writeAt readable value (depth + 1) k
        distinct.1 (isBeyond_of_le (by simp only [membersHeight]; omega) shallow)
      obtain ⟨readings, others, resemble⟩ := exists_spells_writeMembers readable rest depth k
        distinct.2 (isBeyond_of_le (by simp only [membersHeight]; omega) shallow)
      exact ⟨(name, reading) :: readings, .cons ⟨_, rfl, spells⟩ others, rfl, resembles, resemble⟩

end

/-! ## Whole documents -/

theorem read_of_encloses {text : Text} {value : Value} (encloses : Encloses limits 0 text value) :
    read text limits = .ok value := by
  have advanced : advance limits start text = .ok (deliver value []) := by
    have whole := encloses start [] ⟨rfl, .inl rfl⟩ rfl
    rwa [List.append_nil] at whole
  rw [read, advanced]
  rfl

theorem exists_read_write (readable : Readable limits style) {members : Members}
    (distinct : (Value.object members).Distinct)
    (shallow : isBeyond limits.depth (Value.object members).height = false) :
    ∃ readings, read ((Value.object members).write style) limits = .ok (.object readings) ∧
      MembersResemble members readings := by
  have here : isBeyond limits.depth 0 = false := isBeyond_of_le (Nat.zero_le _) shallow
  obtain ⟨readings, spells, resemble⟩ :=
    exists_spells_writeMembers readable members 0 1 distinct.2 ((Nat.zero_add _).symm ▸ shallow)
  have names := names_of_membersResemble resemble
  have unique : (readings.map Prod.fst).Nodup := names ▸ distinct.1
  exact ⟨readings, read_of_encloses (encloses_object readable.toSpaced here unique spells),
    resemble⟩

theorem readable_asciiStyle (unlimited : limits.wholePart = none) : Readable limits asciiStyle :=
  { items := ⟨[' '], rfl, rfl⟩
    names := ⟨[' '], rfl, rfl⟩
    unlimited
    numbers := fun _ number shallow => exists_spells_text unlimited shallow number }

theorem readable_indentedStyle (unlimited : limits.wholePart = none) :
    Readable limits indentedStyle :=
  { readable_asciiStyle unlimited with items := ⟨[], rfl, rfl⟩ }

/-! ## What is found in an object that was read -/

theorem lookup_of_membersResemble {members others : Members}
    (resemble : MembersResemble members others) {name : Text} {value : Value}
    (found : members.lookup name = some value) :
    ∃ other, others.lookup name = some other ∧ value.Resembles other := by
  induction members generalizing others with
  | nil => cases found
  | cons member members ih =>
      obtain ⟨given, content⟩ := member
      cases others with
      | nil => cases resemble
      | cons reading others =>
          obtain ⟨otherName, other⟩ := reading
          obtain ⟨rfl, here, rest⟩ := resemble
          rw [List.lookup_cons] at found ⊢
          split at found
          · obtain rfl := Option.some.inj found
            exact ⟨other, rfl, here⟩
          · exact ih rest found

/-! ## Without floating-point numbers -/

mutual

/-- There is no floating-point number in the value. -/
def Value.Exact : Value → Prop
  | .float _ => False
  | .array items => ItemsExact items
  | .object members => MembersExact members
  | _ => True

def ItemsExact : List Value → Prop
  | [] => True
  | item :: rest => item.Exact ∧ ItemsExact rest

def MembersExact : List (Text × Value) → Prop
  | [] => True
  | (_, value) :: rest => value.Exact ∧ MembersExact rest

end

theorem Value.exact_null : Value.null.Exact := trivial

theorem Value.exact_text (content : Text) : (Value.text content).Exact := trivial

theorem itemsExact_iff {items : List Value} : ItemsExact items ↔ ∀ item ∈ items, item.Exact := by
  induction items with
  | nil => simp [ItemsExact]
  | cons item rest ih => rw [ItemsExact, ih, List.forall_mem_cons]

mutual

theorem eq_of_resembles {value other : Value} (exact : value.Exact)
    (resembles : value.Resembles other) : value = other := by
  match value, other with
  | .null, other | .bool _, other | .int _, other | .text _, other =>
      cases other <;> exact resembles
  | .float _, _ => cases exact
  | .array items, .array others =>
      exact congrArg Value.array (eq_of_itemsResemble exact resembles)
  | .object members, .object others =>
      exact congrArg Value.object (eq_of_membersResemble exact resembles)

theorem eq_of_itemsResemble {items others : List Value} (exact : ItemsExact items)
    (resemble : ItemsResemble items others) : items = others := by
  match items, others with
  | [], [] => rfl
  | item :: items, other :: others =>
      rw [eq_of_resembles exact.1 resemble.1, eq_of_itemsResemble exact.2 resemble.2]

theorem eq_of_membersResemble {members others : Members} (exact : MembersExact members)
    (resemble : MembersResemble members others) : members = others := by
  match members, others with
  | [], [] => rfl
  | (name, value) :: members, (otherName, other) :: others =>
      obtain ⟨rfl, resembles, rest⟩ := resemble
      rw [eq_of_resembles exact.1 resembles, eq_of_membersResemble exact.2 rest]

end

theorem read_of_spells {text : Text} {value : Value} (spells : Spells limits 0 text value) :
    read (text ++ ['\n']) limits = .ok value := by
  have stays : step limits (deliver value []) '\n' = .ok (deliver value []) := by
    rw [step_idle (deliver_idle value [])]
    rfl
  have advanced : advance limits start (text ++ ['\n']) = .ok (deliver value []) :=
    spells start '\n' _ [] ⟨rfl, .inl rfl⟩ rfl (endsNumber_of_isSpace rfl) stays
  rw [read, advanced]
  rfl

theorem read_write_of_exact (readable : Readable limits style) {value : Value}
    (distinct : value.Distinct) (exact : value.Exact)
    (shallow : isBeyond limits.depth value.height = false) :
    read (value.write style ++ ['\n']) limits = .ok value := by
  obtain ⟨reading, spells, resembles⟩ := exists_spells_writeAt readable value 0 0 distinct
    ((Nat.zero_add value.height).symm ▸ shallow)
  obtain rfl := eq_of_resembles exact resembles
  exact read_of_spells spells

end DocScan.Json
