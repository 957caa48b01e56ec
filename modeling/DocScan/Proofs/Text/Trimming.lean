import DocScan.Text.Quoted
import Mathlib.Data.List.TakeWhile

/-!
# Trimming and unwrapping

Trimming stops at the first and at the last character that is not blank, and what stands between
them is kept. Unwrapping takes off one pair of quotes that trimming brings to the ends.
-/

namespace DocScan.Text

theorem trimLeft_append (indent rest : Text) (blank : ∀ c ∈ indent, isBlank c = true) :
    trimLeft (indent ++ rest) = trimLeft rest :=
  List.dropWhile_append_of_pos blank

theorem trimRight_append_cons (front tail : Text) (c : Char) (solid : isBlank c = false) :
    trimRight (front ++ c :: tail) = front ++ c :: trimRight tail := by
  rw [trimRight, trimRight, List.reverse_append, List.reverse_cons, List.append_assoc,
    List.singleton_append, List.dropWhile_append]
  cases kept : tail.reverse.dropWhile isBlank with
  | nil => simp [solid]
  | cons last more => simp

theorem exists_trimRight (text : Text) :
    ∃ tail, (∀ c ∈ tail, isBlank c = true) ∧ trimRight text ++ tail = text := by
  refine ⟨(text.reverse.takeWhile isBlank).reverse, fun c member => ?_, ?_⟩
  · exact List.mem_takeWhile_imp (List.mem_reverse.mp member)
  · rw [trimRight, ← List.reverse_append, List.takeWhile_append_dropWhile, List.reverse_reverse]

theorem trimRight_prefix (text : Text) : trimRight text <+: text := by
  obtain ⟨tail, -, same⟩ := exists_trimRight text
  exact ⟨tail, same⟩

/-- Trimming takes off blanks and nothing else. -/
theorem exists_trim (text : Text) :
    ∃ before after, (∀ c ∈ before, isBlank c = true) ∧ (∀ c ∈ after, isBlank c = true) ∧
      before ++ trim text ++ after = text := by
  obtain ⟨after, blank, same⟩ := exists_trimRight (trimLeft text)
  refine ⟨text.takeWhile isBlank, after, fun c => List.mem_takeWhile_imp, blank, ?_⟩
  rw [List.append_assoc, trim, same, trimLeft, List.takeWhile_append_dropWhile]

theorem trim_infix (text : Text) : trim text <:+: text := by
  obtain ⟨before, after, -, -, same⟩ := exists_trim text
  exact ⟨before, after, same⟩

theorem trimRight_append (text tail : Text) (blank : ∀ c ∈ tail, isBlank c = true) :
    trimRight (text ++ tail) = trimRight text := by
  rw [trimRight, List.reverse_append, List.dropWhile_append_of_pos, trimRight]
  intro c member
  exact blank c (List.mem_reverse.mp member)

/-- What is dropped at both ends of a text stops at the characters that are kept. -/
theorem dropWhile_ends (dropped : Char → Bool) {left text right : Text}
    (before : ∀ c ∈ left, dropped c = true) (after : ∀ c ∈ right, dropped c = true)
    (first : ∀ c, text.head? = some c → dropped c = false)
    (last : ∀ c, text.getLast? = some c → dropped c = false) :
    (((left ++ text ++ right).dropWhile dropped).reverse.dropWhile dropped).reverse = text := by
  have behind : ∀ c ∈ right.reverse, dropped c = true :=
    fun c member => after c (List.mem_reverse.mp member)
  rw [List.append_assoc, List.dropWhile_append_of_pos before]
  cases text with
  | nil =>
      rw [List.nil_append, List.dropWhile_eq_nil_iff.mpr after]
      rfl
  | cons c rest =>
      have kept : dropped c = false := first c rfl
      rw [List.cons_append, List.dropWhile_cons_of_neg (by simp [kept]), ← List.cons_append,
        List.reverse_append, List.dropWhile_append_of_pos behind]
      cases backwards : (c :: rest).reverse with
      | nil => simp at backwards
      | cons d front =>
          have ended : dropped d = false := last d (by rw [← List.head?_reverse, backwards]; rfl)
          rw [List.dropWhile_cons_of_neg (by simp [ended]), ← backwards, List.reverse_reverse]

/-! ## Padding -/

/-- The text is blank and within one line. -/
def IsPadding (text : Text) : Prop := (∀ c ∈ text, isBlank c = true) ∧ '\n' ∉ text

abbrev Padding := { text : Text // IsPadding text }

theorem isPadding_nil : IsPadding [] := by
  constructor
  · intro c member
    cases member
  · exact List.not_mem_nil

theorem quote_not_mem_padding (padding : Padding) : '"' ∉ padding.val := by
  intro member
  have blank := padding.property.1 '"' member
  revert blank
  decide

theorem trim_padded (left right : Padding) (text : Text) :
    trim (left.val ++ text ++ right.val) = trim text := by
  obtain ⟨left, leftBlank, -⟩ := left
  obtain ⟨right, rightBlank, -⟩ := right
  rw [trim, List.append_assoc, trimLeft_append left _ leftBlank, trimLeft, List.dropWhile_append]
  cases kept : text.dropWhile isBlank with
  | nil =>
      -- A blank text leaves nothing in front of the blanks on its right.
      have dropped : right.dropWhile isBlank = [] := by
        simpa [trimLeft] using trimLeft_append right [] rightBlank
      simp [trim, trimLeft, kept, dropped]
  | cons c rest =>
      rw [trim, trimLeft, kept]
      exact trimRight_append (c :: rest) right rightBlank

/-! ## Unwrapping -/

/-- Trimmed, the text stands between two quotes of one kind. -/
def Wraps (quote : Char) (inner text : Text) : Prop :=
  (quote = '\'' ∨ quote = '"') ∧ trim text = quote :: (inner ++ [quote])

theorem unwrap_of_wraps (quote : Char) (inner text : Text) (wraps : Wraps quote inner text) :
    unwrap text = inner := by
  obtain ⟨kind, ends⟩ := wraps
  simp [unwrap, ends, kind]

theorem unwrap_of_not_wraps (text : Text) (plain : ∀ quote inner, ¬ Wraps quote inner text) :
    unwrap text = text := by
  unfold unwrap
  cases ends : trim text with
  | nil => rfl
  | cons quote inner =>
      by_cases wrapped : (quote = '\'' ∨ quote = '"') ∧ inner.getLast? = some quote
      · obtain ⟨kind, last⟩ := wrapped
        obtain ⟨front, rfl⟩ := List.getLast?_eq_some_iff.mp last
        exact absurd ⟨kind, ends⟩ (plain quote front)
      · exact if_neg wrapped

theorem unwrap_of_not_mem (text : Text) (free : '"' ∉ text)
    (unwrapped : ∀ inner, ¬ Wraps '\'' inner text) : unwrap text = text := by
  apply unwrap_of_not_wraps
  rintro quote inner ⟨rfl | rfl, ends⟩
  · exact unwrapped inner ⟨.inl rfl, ends⟩
  · have inside := trim_infix text
    have member : '"' ∈ trim text := by simp [ends]
    exact free (inside.subset member)

/-- What is left of the text without one pair of quotes around it, if it has one. -/
def Unquoted (text bare : Text) : Prop :=
  (∃ quote, Wraps quote bare text) ∨ ((∀ quote inner, ¬ Wraps quote inner text) ∧ bare = text)

theorem unquoted_unwrap (text : Text) : Unquoted text (unwrap text) := by
  by_cases wrapped : ∃ quote inner, Wraps quote inner text
  · obtain ⟨quote, inner, wraps⟩ := wrapped
    rw [unwrap_of_wraps quote inner text wraps]
    exact .inl ⟨quote, wraps⟩
  · have plain (quote : Char) (inner : Text) : ¬ Wraps quote inner text :=
      fun wraps => wrapped ⟨quote, inner, wraps⟩
    exact .inr ⟨plain, unwrap_of_not_wraps text plain⟩

theorem unwrap_of_unquoted (text bare : Text) (unquoted : Unquoted text bare) :
    unwrap text = bare := by
  rcases unquoted with ⟨quote, wraps⟩ | ⟨plain, rfl⟩
  · exact unwrap_of_wraps quote bare text wraps
  · exact unwrap_of_not_wraps bare plain

end DocScan.Text
