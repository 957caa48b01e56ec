import DocScan.Proofs.Text.Trimming
import Mathlib.Logic.Function.Iterate

/-!
# Layers of wrapping quotes

Unwrapping takes off the outermost layer and leaves alone what has none. A layer is at least two
characters long, so a text has only so many of them, and unwrapping again and again comes down to
the core that none of them is part of.
-/

namespace DocScan.Text

/-! ## One layer -/

abbrev Blanks := { text : Text // ∀ c ∈ text, isBlank c = true }

/-- Two quotes of one kind and the blanks on their outer sides. -/
structure Layer where
  left : Blanks
  quote : Char
  right : Blanks
  isQuote : quote = '\'' ∨ quote = '"'

def Layer.around (layer : Layer) (text : Text) : Text :=
  layer.left.val ++ (layer.quote :: (text ++ [layer.quote])) ++ layer.right.val

theorem Layer.not_isBlank_quote (layer : Layer) : isBlank layer.quote = false := by
  rcases layer.isQuote with same | same
  all_goals
    rw [same]
    rfl

theorem Layer.length_le_around (layer : Layer) (text : Text) :
    text.length + 2 ≤ (layer.around text).length := by
  simp only [around, List.length_append, List.length_cons, List.length_nil]
  omega

theorem Layer.wraps_around (layer : Layer) (text : Text) :
    Wraps layer.quote text (layer.around text) := by
  have solid := layer.not_isBlank_quote
  refine ⟨layer.isQuote, ?_⟩
  apply dropWhile_ends isBlank layer.left.property layer.right.property
  · intro c first
    rwa [← Option.some.inj first]
  · intro c last
    rw [← List.cons_append, List.getLast?_concat] at last
    rwa [← Option.some.inj last]

theorem exists_around_of_wraps (quote : Char) (inner text : Text)
    (wraps : Wraps quote inner text) : ∃ layer : Layer, text = layer.around inner := by
  obtain ⟨isQuote, ends⟩ := wraps
  obtain ⟨left, right, leftBlank, rightBlank, whole⟩ := exists_trim text
  rw [ends] at whole
  exact ⟨⟨⟨left, leftBlank⟩, quote, ⟨right, rightBlank⟩, isQuote⟩, whole.symm⟩

@[simp] theorem unwrap_around (layer : Layer) (text : Text) : unwrap (layer.around text) = text :=
  unwrap_of_wraps layer.quote text _ (layer.wraps_around text)

/-- The text has no layer around it. -/
def Bare (text : Text) : Prop := ∀ (layer : Layer) (inner : Text), text ≠ layer.around inner

theorem unwrap_of_bare (text : Text) (bare : Bare text) : unwrap text = text := by
  apply unwrap_of_not_wraps
  intro quote inner wraps
  obtain ⟨layer, same⟩ := exists_around_of_wraps quote inner text wraps
  exact bare layer inner same

theorem exists_around_of_not_bare (text : Text) (wrapped : ¬ Bare text) :
    ∃ (layer : Layer) (inner : Text), text = layer.around inner := by
  simpa [Bare] using wrapped

theorem unwrap_eq_self_iff (text : Text) : unwrap text = text ↔ Bare text := by
  constructor
  · rintro same layer inner rfl
    rw [unwrap_around] at same
    have longer := layer.length_le_around inner
    rw [← same] at longer
    omega
  · exact unwrap_of_bare text

instance : DecidablePred Bare := fun text => decidable_of_iff _ (unwrap_eq_self_iff text)

example : Bare ['"'] ∧ Bare ['\'', 'a', '"'] ∧ ¬ Bare [' ', '"', '"'] := by decide

/-! ## Several layers -/

/-- The text in layers, the outermost one first. -/
def layered (layers : List Layer) (text : Text) : Text := layers.foldr Layer.around text

@[simp] theorem layered_nil (text : Text) : layered [] text = text := rfl

@[simp] theorem layered_cons (layer : Layer) (layers : List Layer) (text : Text) :
    layered (layer :: layers) text = layer.around (layered layers text) := rfl

theorem length_le_layered (layers : List Layer) (text : Text) :
    text.length + 2 * layers.length ≤ (layered layers text).length := by
  induction layers with
  | nil => simp
  | cons layer layers ih =>
      have longer := layer.length_le_around (layered layers text)
      rw [layered_cons, List.length_cons]
      omega

theorem iterate_unwrap_layered (layers : List Layer) (text : Text) (count : Nat) :
    unwrap^[count] (layered layers text) =
      unwrap^[count - layers.length] (layered (layers.drop count) text) := by
  induction layers generalizing count with
  | nil => simp
  | cons layer layers ih =>
      cases count with
      | zero => simp
      | succ count =>
          rw [layered_cons, Function.iterate_succ_apply, unwrap_around, ih, List.length_cons,
            Nat.add_sub_add_right, List.drop_succ_cons]

theorem exists_layered (text : Text) :
    ∃ (layers : List Layer) (core : Text), Bare core ∧ text = layered layers core := by
  by_cases bare : Bare text
  · exact ⟨[], text, bare, rfl⟩
  · obtain ⟨layer, inner, same⟩ := exists_around_of_not_bare text bare
    have shorter := layer.length_le_around inner
    rw [← same] at shorter
    obtain ⟨layers, core, bareCore, rfl⟩ := exists_layered inner
    exact ⟨layer :: layers, core, bareCore, same⟩
termination_by text.length

/-! ## Unwrapping again and again -/

theorem length_unwrap_le (text : Text) : (unwrap text).length ≤ text.length := by
  by_cases bare : Bare text
  · rw [unwrap_of_bare text bare]
  · obtain ⟨layer, inner, rfl⟩ := exists_around_of_not_bare text bare
    have longer := layer.length_le_around inner
    rw [unwrap_around]
    omega

theorem length_iterate_unwrap_le (text : Text) (count : Nat) :
    (unwrap^[count] text).length ≤ text.length := by
  induction count with
  | zero => exact Nat.le_refl _
  | succ count ih =>
      rw [Function.iterate_succ_apply']
      exact (length_unwrap_le _).trans ih

theorem iterate_unwrap_of_bare (text : Text) (bare : Bare text) (count : Nat) :
    unwrap^[count] text = text :=
  Function.iterate_fixed (unwrap_of_bare text bare) count

/-- A text that has a layer never comes back: the layer is gone, and nothing puts one on. -/
theorem iterate_unwrap_eq_self_iff (text : Text) (count : Nat) :
    unwrap^[count + 1] text = text ↔ Bare text := by
  constructor
  · rintro same layer inner rfl
    have shorter := length_iterate_unwrap_le inner count
    have longer := layer.length_le_around inner
    rw [Function.iterate_succ_apply, unwrap_around] at same
    rw [same] at shorter
    omega
  · intro bare
    exact iterate_unwrap_of_bare text bare (count + 1)

theorem iterate_unwrap_layered_eq_iff (layers : List Layer) (text : Text) (count : Nat) :
    unwrap^[count] (layered layers text) = text ↔
      count = layers.length ∨ layers.length < count ∧ Bare text := by
  rw [iterate_unwrap_layered]
  rcases Nat.lt_trichotomy count layers.length with few | rfl | many
  · -- Layers are left, which make the text longer than it is without them.
    have longer := length_le_layered (layers.drop count) text
    rw [List.length_drop] at longer
    have other : layered (layers.drop count) text ≠ text := by
      intro same
      rw [same] at longer
      omega
    rw [Nat.sub_eq_zero_of_le few.le]
    simp [other, few.ne, few.not_gt]
  · simp
  · obtain ⟨more, rfl⟩ := Nat.exists_eq_add_of_lt many
    have turns : layers.length + more + 1 - layers.length = more + 1 := by omega
    rw [turns, List.drop_of_length_le many.le, layered_nil, iterate_unwrap_eq_self_iff]
    simp [many, many.ne']

theorem bare_iterate_unwrap_iff (layers : List Layer) (core : Text) (bare : Bare core)
    (count : Nat) : Bare (unwrap^[count] (layered layers core)) ↔ layers.length ≤ count := by
  rw [iterate_unwrap_layered]
  by_cases gone : layers.length ≤ count
  · rw [List.drop_of_length_le gone, layered_nil, iterate_unwrap_of_bare core bare]
    exact iff_of_true bare gone
  · have more : layers.drop count ≠ [] := mt List.drop_eq_nil_iff.mp gone
    obtain ⟨layer, rest, left⟩ := List.exists_cons_of_ne_nil more
    rw [Nat.sub_eq_zero_of_le (Nat.le_of_not_le gone), left]
    exact iff_of_false (fun stripped => stripped layer (layered rest core) rfl) gone

/-- Unwrapping takes off one layer if there is one, and changes nothing else. So a text in layers
comes out after as many turns as there are layers, not sooner, and not later either unless it is
bare; and as many turns as half the length of a text are enough for all layers it has. -/
theorem unwrap_layers (text : Text) :
    (∀ layer : Layer, unwrap (layer.around text) = text) ∧
      (unwrap text = text ↔ Bare text) ∧
      (∀ (layers : List Layer) (count : Nat), unwrap^[count] (layered layers text) = text ↔
        count = layers.length ∨ layers.length < count ∧ Bare text) ∧
      ∃ (layers : List Layer) (core : Text), text = layered layers core ∧
        layers.length ≤ text.length / 2 ∧ ∀ count,
          unwrap (unwrap^[count] text) = unwrap^[count] text ↔ layers.length ≤ count := by
  refine ⟨?off, unwrap_eq_self_iff text, ?turns, ?fixed⟩
  case off =>
    intro layer
    exact unwrap_around layer text
  case turns =>
    intro layers count
    exact iterate_unwrap_layered_eq_iff layers text count
  case fixed =>
    obtain ⟨layers, core, bare, rfl⟩ := exists_layered text
    have longer := length_le_layered layers core
    refine ⟨layers, core, rfl, by omega, fun count => ?_⟩
    rw [unwrap_eq_self_iff, bare_iterate_unwrap_iff layers core bare]

end DocScan.Text
