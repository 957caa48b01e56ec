import DocScan.Explain.Document
import DocScan.Proofs.Text.Lines
import DocScan.Proofs.Text.Tokens
import Mathlib.Data.List.Basic

/-!
# Reading back a laid-out explain document

An option line is read by the ordinals of its quotes, so what stands between the tokens is free: any
gaps without quotes, any labels, and anything at all behind a description.
-/

namespace DocScan.Explain
open Text (IsInline Inline OneLine quoted descriptionKey lineFeed_not_mem_quoted)

/-! ## Rows that can be written -/

/-- The row fits on an option line: its fields do, and none is missing in front of another. -/
structure OptionRow.Writable (row : OptionRow) : Prop where
  name : IsInline row.name
  value : ∀ text ∈ row.value, IsInline text
  description : ∀ text ∈ row.description, IsInline text
  valueFirst : row.value = none → row.description = none

instance (row : OptionRow) : Decidable row.Writable :=
  decidable_of_iff (IsInline row.name ∧ (∀ text ∈ row.value, IsInline text) ∧
      (∀ text ∈ row.description, IsInline text) ∧ (row.value = none → row.description = none))
    ⟨fun ⟨name, value, description, valueFirst⟩ => ⟨name, value, description, valueFirst⟩,
      fun ⟨name, value, description, valueFirst⟩ => ⟨name, value, description, valueFirst⟩⟩

/-! ## Option lines -/

structure Spacing where
  front : Inline
  behindName : Inline
  valueLabel : Inline
  beforeValue : Inline
  behindValue : Inline
  descriptionLabel : Inline
  beforeDescription : Inline
  behindDescription : OneLine

namespace Spacing

def valuePart (spacing : Spacing) : Option Text → Text
  | none => []
  | some value =>
    quoted spacing.valueLabel.val ++ spacing.beforeValue.val ++ quoted value ++
      spacing.behindValue.val

def descriptionPart (spacing : Spacing) : Option Text → Text
  | none => []
  | some description =>
    quoted spacing.descriptionLabel.val ++ spacing.beforeDescription.val ++ quoted description ++
      spacing.behindDescription.val

/-- The line of a row. Absent fields are left out with their labels. -/
def line (spacing : Spacing) (row : OptionRow) : Text :=
  spacing.front.val ++ quoted row.name ++ spacing.behindName.val ++
    spacing.valuePart row.value ++ spacing.descriptionPart row.description

end Spacing

theorem rowOf?_eq_map (line : Text) :
    rowOf? line = (Text.quotedTokens line)[0]?.map fun name =>
      { name
        value := (Text.quotedTokens line)[2]?
        description := (Text.quotedTokens line)[4]? } := by
  cases found : Text.quotedTokens line <;> simp [rowOf?, found]

theorem rowOf?_congr (line other : Text)
    (same : Text.quotedTokens other = Text.quotedTokens line) : rowOf? other = rowOf? line := by
  rw [rowOf?_eq_map, rowOf?_eq_map, same]

theorem rowOf?_of_not_mem (line : Text) (free : '"' ∉ line) : rowOf? line = none := by
  rw [rowOf?_eq_none_iff, Text.quotedTokens_of_not_mem line free]

theorem quotedTokens_labelled (gap label inner : Inline) (field rest : Text)
    (inline : IsInline field) :
    Text.quotedTokens (gap.val ++ (quoted label.val ++ (inner.val ++ (quoted field ++ rest)))) =
      label.val :: field :: Text.quotedTokens rest := by
  rw [Text.quotedTokens_gap_quoted _ _ _ gap.property.1 label.property,
    Text.quotedTokens_gap_quoted _ _ _ inner.property.1 inline]

theorem rowOf?_line (spacing : Spacing) (row : OptionRow) (writable : row.Writable) :
    rowOf? (spacing.line row) = some row := by
  obtain ⟨name, value, description⟩ := row
  obtain ⟨nameInline, valueInline, descriptionInline, valueFirst⟩ := writable
  -- The line has one token, three, or five and those behind the description.
  cases value with
  | none =>
      have absent : description = none := valueFirst rfl
      have tokens : Text.quotedTokens (spacing.line ⟨name, none, description⟩) = [name] := by
        simp only [Spacing.line, Spacing.valuePart, absent, Spacing.descriptionPart,
          List.append_assoc, List.append_nil]
        rw [Text.quotedTokens_gap_quoted _ _ _ spacing.front.property.1 nameInline,
          Text.quotedTokens_of_not_mem _ spacing.behindName.property.1]
      rw [rowOf?_eq_map, tokens, absent]
      rfl
  | some value =>
      have valueFits := valueInline value rfl
      cases description with
      | none =>
          have tokens : Text.quotedTokens (spacing.line ⟨name, some value, none⟩) =
              [name, spacing.valueLabel.val, value] := by
            simp only [Spacing.line, Spacing.valuePart, Spacing.descriptionPart,
              List.append_assoc, List.append_nil]
            rw [Text.quotedTokens_gap_quoted _ _ _ spacing.front.property.1 nameInline,
              quotedTokens_labelled _ _ _ value _ valueFits,
              Text.quotedTokens_of_not_mem _ spacing.behindValue.property.1]
          rw [rowOf?_eq_map, tokens]
          rfl
      | some description =>
          have descriptionFits := descriptionInline description rfl
          have tokens : Text.quotedTokens (spacing.line ⟨name, some value, some description⟩) =
              name :: spacing.valueLabel.val :: value :: spacing.descriptionLabel.val ::
                description :: Text.quotedTokens spacing.behindDescription.val := by
            simp only [Spacing.line, Spacing.valuePart, Spacing.descriptionPart,
              List.append_assoc]
            rw [Text.quotedTokens_gap_quoted _ _ _ spacing.front.property.1 nameInline,
              quotedTokens_labelled _ _ _ value _ valueFits,
              quotedTokens_labelled _ _ _ description _ descriptionFits]
          rw [rowOf?_eq_map, tokens]
          rfl

theorem lineFeed_not_mem_line (spacing : Spacing) (row : OptionRow) (writable : row.Writable) :
    '\n' ∉ spacing.line row := by
  obtain ⟨name, value, description⟩ := row
  obtain ⟨nameInline, valueInline, descriptionInline, -⟩ := writable
  have front := spacing.front.property.2
  have behindName := spacing.behindName.property.2
  have valuePart : '\n' ∉ spacing.valuePart value := by
    cases value with
    | none => simp [Spacing.valuePart]
    | some value =>
        have free := lineFeed_not_mem_quoted ⟨value, valueInline value rfl⟩
        have label := lineFeed_not_mem_quoted spacing.valueLabel
        simp [Spacing.valuePart, free, label, spacing.beforeValue.property.2,
          spacing.behindValue.property.2]
  have descriptionPart : '\n' ∉ spacing.descriptionPart description := by
    cases description with
    | none => simp [Spacing.descriptionPart]
    | some description =>
        have free := lineFeed_not_mem_quoted ⟨description, descriptionInline description rfl⟩
        have label := lineFeed_not_mem_quoted spacing.descriptionLabel
        simp [Spacing.descriptionPart, free, label, spacing.beforeDescription.property.2,
          spacing.behindDescription.property]
  have name := lineFeed_not_mem_quoted ⟨name, nameInline⟩
  simp [Spacing.line, front, name, behindName, valuePart, descriptionPart]

/-! ## The generated layout -/

def OptionRow.line (row : OptionRow) : Text :=
  quoted row.name ++ ": \x7b".toList ++
    (match row.value with
      | none => []
      | some value => " \"value\": ".toList ++ quoted value) ++
    (match row.description with
      | none => []
      | some description => ", \"description\": ".toList ++ quoted description) ++
    " \x7d,".toList

/-- Where the fields of a row are last on the generated line, its end takes the place of a gap. -/
def Spacing.generated (row : OptionRow) : Spacing where
  front := .empty
  behindName := if row.value = none then ⟨": \x7b \x7d,".toList, by decide⟩
    else ⟨": \x7b ".toList, by decide⟩
  valueLabel := ⟨"value".toList, by decide⟩
  beforeValue := ⟨": ".toList, by decide⟩
  behindValue := if row.description = none then ⟨" \x7d,".toList, by decide⟩
    else ⟨", ".toList, by decide⟩
  descriptionLabel := descriptionKey
  beforeDescription := ⟨": ".toList, by decide⟩
  behindDescription := ⟨" \x7d,".toList, by decide⟩

theorem line_generated (row : OptionRow) (valueFirst : row.value = none → row.description = none) :
    (Spacing.generated row).line row = row.line := by
  obtain ⟨name, value, description⟩ := row
  cases value with
  | none =>
      have absent : description = none := valueFirst rfl
      simp [OptionRow.line, Spacing.line, Spacing.generated, Spacing.valuePart,
        Spacing.descriptionPart, quoted, absent]
  | some value =>
      cases description with
      | none =>
          simp [OptionRow.line, Spacing.line, Spacing.generated, Spacing.valuePart,
            Spacing.descriptionPart, quoted]
      | some description =>
          simp [OptionRow.line, Spacing.line, Spacing.generated, Spacing.valuePart,
            Spacing.descriptionPart, quoted]

/-! ## Documents -/

def document (first second : OneLine) (body : List Text) : Text :=
  Text.join ['\n'] (first.val :: second.val :: body)

theorem lines_document (first second : OneLine) (body : List Text)
    (oneLine : ∀ line ∈ body, '\n' ∉ line) :
    Text.lines (document first second body) = first.val :: second.val :: body := by
  apply Text.lines_join _ (List.cons_ne_nil _ _)
  intro line member
  rcases List.mem_cons.mp member with rfl | member
  · exact first.property
  · rcases List.mem_cons.mp member with rfl | member
    · exact second.property
    · exact oneLine line member

theorem rows_document (first second : OneLine) (body : List Text)
    (oneLine : ∀ line ∈ body, '\n' ∉ line) :
    rows (some (document first second body)) = body.filterMap rowOf? := by
  rw [rows_filterMap, lines_document first second body oneLine]
  rfl

/-- A line behind the headers: that of a row, or any line without quotes. -/
inductive BodyLine where
  | option (row : OptionRow) (spacing : Spacing)
  | other (text : Inline)

namespace BodyLine

def text : BodyLine → Text
  | .option row spacing => spacing.line row
  | .other text => text.val

def row? : BodyLine → Option OptionRow
  | .option row _ => some row
  | .other _ => none

end BodyLine

theorem rows_laidOut (written : List OptionRow) (writable : ∀ row ∈ written, row.Writable)
    (first second : OneLine) (body : List BodyLine)
    (laidOut : body.filterMap BodyLine.row? = written) :
    rows (some (document first second (body.map BodyLine.text))) = written := by
  have fits (row : OptionRow) (spacing : Spacing) (member : .option row spacing ∈ body) :
      row.Writable := by
    apply writable
    rw [← laidOut, List.mem_filterMap]
    exact ⟨.option row spacing, member, rfl⟩
  have oneLine : ∀ line ∈ body.map BodyLine.text, '\n' ∉ line := by
    intro line member
    obtain ⟨source, inBody, rfl⟩ := List.mem_map.mp member
    cases source with
    | option row spacing => exact lineFeed_not_mem_line spacing row (fits row spacing inBody)
    | other text => exact text.property.2
  have read : ∀ line ∈ body, rowOf? line.text = line.row? := by
    intro line member
    cases line with
    | option row spacing => exact rowOf?_line spacing row (fits row spacing member)
    | other text => exact rowOf?_of_not_mem text.val text.property.1
  rw [rows_document first second _ oneLine, List.filterMap_map, ← laidOut]
  exact List.filterMap_congr read

/-- An empty name, an empty value, a backslash in front of a quote and quotes behind the last
field. -/
def sampleRows : List OptionRow :=
  [{ name := [], value := some [], description := some "say \\".toList },
    { name := "daemon".toList },
    { name := "pool".toList, value := some "5".toList }]

def sampleBody : List BodyLine :=
  [.other ⟨"\x7b".toList, by decide⟩,
    .option { name := [], value := some [], description := some "say \\".toList }
      { front := ⟨"\t".toList, by decide⟩
        behindName := .empty
        valueLabel := .empty
        beforeValue := .empty
        behindValue := ⟨"\r".toList, by decide⟩
        descriptionLabel := ⟨"value".toList, by decide⟩
        beforeDescription := .empty
        behindDescription := ⟨"\"\"x\" \"open".toList, by decide⟩ },
    .option { name := "daemon".toList } (.generated { name := "daemon".toList }),
    .other .empty,
    .option { name := "pool".toList, value := some "5".toList }
      (.generated { name := "pool".toList, value := some "5".toList })]

theorem rows_laidOut_sample :
    (∀ row ∈ sampleRows, row.Writable) ∧ sampleBody.filterMap BodyLine.row? = sampleRows ∧
      rows (some (document ⟨"\"x\": \"y".toList, by decide⟩ ⟨"\"".toList, by decide⟩
        (sampleBody.map BodyLine.text))) = sampleRows :=
  ⟨by decide, by decide, rows_laidOut sampleRows (by decide) _ _ sampleBody (by decide)⟩

end DocScan.Explain
