import DocScan.Text.Blank

/-!
# Double-quoted tokens and wrapping quotes

Generated documents keep every string on one line and never escape a quote, so a token opens at a
double quote and runs to the next one on the same line. A quote without a partner on its line opens
nothing.
-/

namespace DocScan.Text

/-- The contents of a token whose opening quote has just been read, and what follows its closing
quote. A line feed or the end of the text comes too early: then the token is not closed. -/
def closing : Text → Option (Text × Text)
  | [] => none
  | c :: rest =>
    if c = '"' then some ([], rest)
    else if c = '\n' then none
    else (closing rest).map fun (token, tail) => (c :: token, tail)

theorem closing_length_lt (text : Text) (found : Text × Text) (closed : closing text = some found) :
    found.2.length < text.length := by
  induction text generalizing found with
  | nil => simp [closing] at closed
  | cons c rest ih =>
      simp only [closing] at closed
      split at closed
      · obtain rfl := Option.some.inj closed
        simp
      · split at closed
        · simp at closed
        · obtain ⟨inner, innerClosed, rfl⟩ := Option.map_eq_some_iff.mp closed
          have shorter := ih inner innerClosed
          simp only [List.length_cons]
          omega

/-- The double-quoted tokens of a text from left to right, without their quotes. An empty pair of
quotes is an empty token. -/
def quotedTokens (text : Text) : List Text :=
  match text with
  | [] => []
  | c :: rest =>
    if c = '"' then
      match _ : closing rest with
      | some (token, tail) => token :: quotedTokens tail
      | none => quotedTokens rest
    else quotedTokens rest
termination_by text.length
decreasing_by
  · have shorter : tail.length < rest.length := closing_length_lt rest (token, tail) ‹_›
    simp only [List.length_cons]
    omega
  · simp
  · simp

/-- One layer of matching single or double quotes taken off, together with the blanks around it. A
text that is not wrapped, once trimmed, in two quotes of one kind stays as it is. -/
def unwrap (text : Text) : Text :=
  match trim text with
  | [] => text
  | quote :: inner =>
    if (quote = '\'' ∨ quote = '"') ∧ inner.getLast? = some quote then inner.dropLast else text

end DocScan.Text
