import DocScan.Proofs.Component.Reading
import DocScan.Proofs.Explain.Layout
import Mathlib.Data.List.Forall2

/-!
# Blanks at the ends of lines

Blanks in front of a line and behind it, a carriage return among them, are part of the line. They
change nothing in either kind of document, whatever the lines look like: a property is looked for on
the trimmed line, and between the quotes of an option line nothing is added, for an open quote is
still open at the end of the longer line.
-/

namespace DocScan.Text

/-- The line with blanks in front of it and behind it. -/
def Pads (line padded : Text) : Prop :=
  ∃ left right : Padding, padded = left.val ++ line ++ right.val

/-- The text with blanks at the ends of its lines, for each line its own. -/
def Padded (content padded : Text) : Prop := List.Forall₂ Pads (lines content) (lines padded)

theorem trim_of_pads (line padded : Text) (pads : Pads line padded) : trim padded = trim line := by
  obtain ⟨left, right, rfl⟩ := pads
  exact trim_padded left right line

theorem quotedTokens_of_pads (line padded : Text) (oneLine : '\n' ∉ line)
    (pads : Pads line padded) : quotedTokens padded = quotedTokens line := by
  obtain ⟨left, right, rfl⟩ := pads
  exact quotedTokens_padded left.val line right.val oneLine (quote_not_mem_padding left)
    (quote_not_mem_padding right)

/-! ## Carriage returns -/

def withCarriageReturns (text : Text) : Text :=
  text.flatMap fun c => if c = '\n' then ['\r', '\n'] else [c]

theorem withCarriageReturns_lineFeed (text : Text) :
    withCarriageReturns ('\n' :: text) = '\r' :: '\n' :: withCarriageReturns text := rfl

theorem withCarriageReturns_cons (c : Char) (text : Text) (notBreak : c ≠ '\n') :
    withCarriageReturns (c :: text) = c :: withCarriageReturns text := by
  rw [withCarriageReturns, List.flatMap_cons, if_neg notBreak]
  rfl

theorem lines_withCarriageReturns (text : Text) :
    List.Forall₂ (fun line padded => padded = line ∨ padded = line ++ ['\r'])
      (lines text) (lines (withCarriageReturns text)) := by
  induction text with
  | nil => exact .cons (.inl rfl) .nil
  | cons c rest ih =>
      by_cases isBreak : c = '\n'
      · rw [isBreak, withCarriageReturns_lineFeed, lines_lineFeed,
          lines_cons_of_ne '\r' _ [] _ (by decide) (lines_lineFeed _)]
        exact .cons (.inr rfl) ih
      · -- The first line of either text gets the character, and they end as before.
        obtain ⟨line, more, cut⟩ := List.exists_cons_of_ne_nil (split_ne_nil '\n' rest)
        rw [← lines] at cut
        rw [cut] at ih
        obtain ⟨padded, others, ends, later, cutPadded⟩ := List.forall₂_cons_left_iff.mp ih
        rw [withCarriageReturns_cons c rest isBreak, lines_cons_of_ne c rest line more isBreak cut,
          lines_cons_of_ne c _ padded others isBreak cutPadded]
        exact .cons (ends.imp (congrArg (c :: ·)) (congrArg (c :: ·))) later

theorem padded_withCarriageReturns (text : Text) : Padded text (withCarriageReturns text) := by
  apply (lines_withCarriageReturns text).imp
  intro line padded ends
  rcases ends with rfl | rfl
  · exact ⟨⟨[], isPadding_nil⟩, ⟨[], isPadding_nil⟩, by simp⟩
  · exact ⟨⟨[], isPadding_nil⟩, ⟨['\r'], List.all_eq_true.mp (by decide), by decide⟩, by simp⟩

end DocScan.Text

/-! ## Readings of padded documents -/

namespace DocScan
open Text (Padded Pads)

theorem Explain.filterMap_rowOf?_padded (lines padded : List Text)
    (pads : List.Forall₂ (fun line other => '\n' ∉ line ∧ Pads line other) lines padded) :
    padded.filterMap rowOf? = lines.filterMap rowOf? := by
  induction pads with
  | nil => rfl
  | cons first _ ih =>
      have same := rowOf?_congr _ _ (Text.quotedTokens_of_pads _ _ first.1 first.2)
      rw [List.filterMap_cons, List.filterMap_cons, same, ih]

theorem Explain.rows_padded (content padded : Text) (pads : Padded content padded) :
    rows (some padded) = rows (some content) := by
  have oneLine : ∀ line ∈ Text.lines content, '\n' ∉ line := Text.oneLine_of_mem_lines content
  have all := (List.forall₂_and_left _ _).mpr ⟨oneLine, pads⟩
  rw [rows_filterMap, rows_filterMap]
  exact filterMap_rowOf?_padded _ _ (List.forall₂_drop headerLines all)

theorem Component.findAmong_padded (name : Text) (lines padded : List Text)
    (pads : List.Forall₂ Pads lines padded) : findAmong name padded = findAmong name lines := by
  induction pads with
  | nil => rfl
  | cons first _ ih => rw [findAmong, findAmong, Text.trim_of_pads _ _ first, ih]

theorem readings_padded (content : Text) :
    Padded content (Text.withCarriageReturns content) ∧
      ∀ padded, Padded content padded →
        Explain.rows (some padded) = Explain.rows (some content) ∧
          ∀ name, Component.description? (some padded) name =
            Component.description? (some content) name := by
  refine ⟨Text.padded_withCarriageReturns content, fun padded pads => ⟨?rows, ?descriptions⟩⟩
  case rows => exact Explain.rows_padded content padded pads
  case descriptions =>
    intro name
    rw [Component.description?, Component.description?, Component.find, Component.find,
      Component.findAmong_padded name _ _ pads]

/-- Headers with an open quote, the line of a property, and an option line with an open quote. -/
def unevenDocument : Text := "\"\n\n\"a\": \"description\": \"x\"\n\"b\" \"".toList

def unevenPadded : Text :=
  "\t\" \n\u2003\n  \"a\": \"description\": \"x\"\r\n\"b\" \"\u0085 ".toList

theorem readings_padded_uneven :
    Padded unevenDocument unevenPadded ∧
      Explain.rows (some unevenPadded) =
        [{ name := "a".toList, value := some "x".toList }, { name := "b".toList }] ∧
      Component.description? (some unevenPadded) "a".toList = some "x".toList := by
  have cut : Text.lines unevenDocument = ["\"".toList, [],
      "\"a\": \"description\": \"x\"".toList, "\"b\" \"".toList] := by decide +kernel
  have cutPadded : Text.lines unevenPadded = ["\t\" ".toList, "\u2003".toList,
      "  \"a\": \"description\": \"x\"\r".toList, "\"b\" \"\u0085 ".toList] := by decide +kernel
  have blanks (text : Text) (blank : text.all Text.isBlank = true) (oneLine : '\n' ∉ text) :
      Text.IsPadding text := ⟨List.all_eq_true.mp blank, oneLine⟩
  have pads : Padded unevenDocument unevenPadded := by
    rw [Padded, cut, cutPadded]
    refine .cons ?_ (.cons ?_ (.cons ?_ (.cons ?_ .nil)))
    · exact ⟨⟨"\t".toList, blanks _ (by decide) (by decide)⟩,
        ⟨" ".toList, blanks _ (by decide) (by decide)⟩, rfl⟩
    · exact ⟨⟨"\u2003".toList, blanks _ (by decide) (by decide)⟩, ⟨[], Text.isPadding_nil⟩, rfl⟩
    · exact ⟨⟨"  ".toList, blanks _ (by decide) (by decide)⟩,
        ⟨"\r".toList, blanks _ (by decide) (by decide)⟩, rfl⟩
    · exact ⟨⟨[], Text.isPadding_nil⟩,
        ⟨"\u0085 ".toList, blanks _ (by decide) (by decide)⟩, rfl⟩
  have rows : Explain.rows (some unevenDocument) =
      [{ name := "a".toList, value := some "x".toList }, { name := "b".toList }] := by
    decide +kernel
  have answer : Component.description? (some unevenDocument) "a".toList = some "x".toList := by
    decide +kernel
  obtain ⟨sameRows, sameAnswers⟩ := (readings_padded unevenDocument).2 unevenPadded pads
  exact ⟨pads, sameRows.trans rows, (sameAnswers _).trans answer⟩

end DocScan
