import DocScan.Proofs.Explain.Layout

/-!
# The normal form of a document

Whatever a document looks like, its rows can be written in the generated layout and read back: the
generated document of its rows says the same in one way only.
-/

namespace DocScan.Explain
open Text (OneLine)

theorem writable_of_rowOf? (line : Text) (row : OptionRow) (found : rowOf? line = some row) :
    row.Writable := by
  rw [rowOf?_eq_map] at found
  obtain ⟨name, first, rfl⟩ := Option.map_eq_some_iff.mp found
  refine ⟨?name, ?value, ?description, ?valueFirst⟩
  case name => exact Text.inline_of_mem_quotedTokens line name (List.mem_of_getElem? first)
  case value =>
    intro text member
    exact Text.inline_of_mem_quotedTokens line text (List.mem_of_getElem? member)
  case description =>
    intro text member
    exact Text.inline_of_mem_quotedTokens line text (List.mem_of_getElem? member)
  case valueFirst =>
    -- A line without a third token is too short for a fifth.
    intro absent
    have short := List.getElem?_eq_none_iff.mp absent
    exact List.getElem?_eq_none (by omega)

theorem writable_of_mem_rows (content : Option Text) (row : OptionRow)
    (member : row ∈ rows content) : row.Writable := by
  obtain ⟨line, -, found⟩ := List.mem_filterMap.mp member
  exact writable_of_rowOf? line row found

theorem rowOf?_generated (row : OptionRow) (writable : row.Writable) :
    rowOf? row.line = some row := by
  rw [← line_generated row writable.valueFirst]
  exact rowOf?_line _ row writable

theorem lineFeed_not_mem_generated (row : OptionRow) (writable : row.Writable) :
    '\n' ∉ row.line := by
  rw [← line_generated row writable.valueFirst]
  exact lineFeed_not_mem_line _ row writable

theorem rows_generated (content : Option Text) :
    (∀ row ∈ rows content, row.Writable) ∧ ∀ first second : OneLine,
      rows (some (document first second ((rows content).map OptionRow.line))) = rows content := by
  have writable := writable_of_mem_rows content
  refine ⟨writable, fun first second => ?_⟩
  have oneLine : ∀ line ∈ (rows content).map OptionRow.line, '\n' ∉ line := by
    intro line member
    obtain ⟨row, inRows, rfl⟩ := List.mem_map.mp member
    exact lineFeed_not_mem_generated row (writable row inRows)
  have read : ∀ row ∈ rows content, (rowOf? ∘ OptionRow.line) row = some row := by
    intro row member
    exact rowOf?_generated row (writable row member)
  rw [rows_document first second _ oneLine, List.filterMap_map, List.filterMap_congr read,
    List.filterMap_some]

/-- An unpaired quote, an escaped one and a carriage return. -/
def raggedDocument : Text := "\"\n\n\"a\\\" \r \"\"\"\"\"b\" \"\n\"unpaired\n\"\"".toList

theorem rows_generated_ragged :
    { name := "a\\".toList, value := some [] } ∈ rows (some raggedDocument) ∧
      OptionRow.Writable { name := "a\\".toList, value := some [] } ∧
      rows (some (document ⟨[], by decide⟩ ⟨"\"".toList, by decide⟩
        ((rows (some raggedDocument)).map OptionRow.line))) = rows (some raggedDocument) := by
  have member : { name := "a\\".toList, value := some [] } ∈ rows (some raggedDocument) := by
    decide +kernel
  obtain ⟨writable, same⟩ := rows_generated (some raggedDocument)
  exact ⟨member, writable _ member, same _ _⟩

end DocScan.Explain
