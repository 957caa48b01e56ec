import DocScan.Proofs.Json.Numbers

/-!
# The characters of a written value

Strings and numbers are written with visible characters and spaces. Whatever else occurs in a
document comes from the style, so a style that keeps to some characters between the values keeps to
them throughout.
-/

namespace DocScan.Json

variable {style : Style} {p : Char → Prop}

/-- Written in this style, all but the brackets and words of a value consists of such characters,
and these are at least the ones that can be seen. -/
structure Style.Keeps (style : Style) (p : Char → Prop) : Prop where
  ascii : style.ascii = true
  graphic : ∀ c, IsGraphic c → p c
  items : ∀ c ∈ style.betweenItems, p c
  names : ∀ c ∈ style.afterName, p c
  lines : ∀ depth, ∀ c ∈ style.newLine depth, p c
  numbers : ∀ number, ∀ c ∈ Decimal.text style.numbers number, p c

theorem forall_mem_join {mark : Text} (marks : ∀ c ∈ mark, p c) {pieces : List Text}
    (all : ∀ piece ∈ pieces, ∀ c ∈ piece, p c) : ∀ c ∈ Text.join mark pieces, p c := by
  induction pieces with
  | nil => intro c member; cases member
  | cons piece pieces ih =>
      rw [List.forall_mem_cons] at all
      cases pieces with
      | nil => exact all.1
      | cons next pieces =>
          rw [Text.join, List.forall_mem_append, List.forall_mem_append]
          exact ⟨⟨all.1, marks⟩, ih all.2⟩

theorem Style.Keeps.forall_mem_bracketed (keeps : style.Keeps p) {k : Nat} {opening closing : Char}
    {items : List Text} (opens : IsGraphic opening) (closes : IsGraphic closing)
    (all : ∀ item ∈ items, ∀ c ∈ item, p c) :
    ∀ c ∈ bracketed style k opening closing items, p c := by
  have closed : ∀ c ∈ [closing], p c := by simpa using keeps.graphic closing closes
  unfold bracketed
  split
  · exact List.forall_mem_cons.mpr ⟨keeps.graphic opening opens, closed⟩
  · have between : ∀ c ∈ style.betweenItems ++ style.newLine (k + 1), p c :=
      List.forall_mem_append.mpr ⟨keeps.items, keeps.lines (k + 1)⟩
    have opened : ∀ c ∈ opening :: style.newLine (k + 1), p c :=
      List.forall_mem_cons.mpr ⟨keeps.graphic opening opens, keeps.lines (k + 1)⟩
    rw [List.forall_mem_append, List.forall_mem_append, List.forall_mem_append]
    exact ⟨⟨⟨opened, forall_mem_join between all⟩, keeps.lines k⟩, closed⟩

theorem Style.Keeps.forall_mem_writeText (keeps : style.Keeps p) (text : Text) :
    ∀ c ∈ writeText style.ascii text, p c := by
  rw [keeps.ascii]
  exact fun c member => keeps.graphic c (isGraphic_of_mem_writeText member)

mutual

theorem Style.Keeps.forall_mem_writeAt (keeps : style.Keeps p) (value : Value) (k : Nat) :
    ∀ c ∈ value.writeAt style k, p c := by
  have word (text : Text) (graphic : text.all (decide <| IsGraphic ·) = true) :
      ∀ c ∈ text, p c :=
    fun c among => keeps.graphic c (isGraphic_of_mem graphic among)
  match value with
  | .null => exact word "null".toList (by decide)
  | .bool true => exact word "true".toList (by decide)
  | .bool false => exact word "false".toList (by decide)
  | .int number => exact fun c member => keeps.graphic c ((isNumber_ofInt number).isGraphic member)
  | .float number => exact keeps.numbers number
  | .text content => exact keeps.forall_mem_writeText content
  | .array items =>
      exact keeps.forall_mem_bracketed (by decide) (by decide)
        (keeps.forall_mem_writeItems items (k + 1))
  | .object members =>
      exact keeps.forall_mem_bracketed (by decide) (by decide)
        (keeps.forall_mem_writeMembers members (k + 1))

theorem Style.Keeps.forall_mem_writeItems (keeps : style.Keeps p) (items : List Value) (k : Nat) :
    ∀ text ∈ writeItems style k items, ∀ c ∈ text, p c := by
  match items with
  | [] => intro text member; cases member
  | item :: rest =>
      exact List.forall_mem_cons.mpr
        ⟨keeps.forall_mem_writeAt item k, keeps.forall_mem_writeItems rest k⟩

theorem Style.Keeps.forall_mem_writeMembers (keeps : style.Keeps p)
    (members : List (Text × Value)) (k : Nat) :
    ∀ text ∈ writeMembers style k members, ∀ c ∈ text, p c := by
  match members with
  | [] => intro text member; cases member
  | (name, value) :: rest =>
      refine List.forall_mem_cons.mpr ⟨?_, keeps.forall_mem_writeMembers rest k⟩
      rw [List.forall_mem_append, List.forall_mem_append]
      exact ⟨⟨keeps.forall_mem_writeText name, keeps.names⟩, keeps.forall_mem_writeAt value k⟩

end

/-! ## The styles in use -/

theorem keeps_asciiStyle : asciiStyle.Keeps IsGraphic :=
  { ascii := rfl
    graphic := fun _ graphic => graphic
    items := fun _ => isGraphic_of_mem (by decide)
    names := fun _ => isGraphic_of_mem (by decide)
    lines := fun _ c member => nomatch member
    numbers := fun _ _ member => isGraphic_of_mem_number member }

theorem isGraphic_of_mem_writeAt (value : Value) (k : Nat) :
    ∀ c ∈ value.writeAt asciiStyle k, IsGraphic c :=
  keeps_asciiStyle.forall_mem_writeAt value k

theorem keeps_indentedStyle : indentedStyle.Keeps fun c => IsGraphic c ∨ c = '\n' :=
  { ascii := rfl
    graphic := fun _ => .inl
    items := fun _ member => .inl (isGraphic_of_mem (by decide) member)
    names := fun _ member => .inl (isGraphic_of_mem (by decide) member)
    lines := by
      intro depth c member
      rcases List.mem_cons.mp member with rfl | inside
      · exact .inr rfl
      · rw [List.eq_of_mem_replicate inside]
        exact .inl (by decide)
    numbers := fun _ _ member => .inl (isGraphic_of_mem_number member) }

end DocScan.Json
