import DocScan.Proofs.Explain.Layout

/-!
# Documents that are cut short

A document may be cut anywhere: in a header, inside a token or between two lines. The lines in front
of the cut are whole, and on the last one the scan has only gone less far, so its tokens are the
first ones of the whole line.
-/

namespace DocScan.Explain

/-- The row has the same name, and each of its other fields is the same or absent. -/
structure OptionRow.PartOf (part whole : OptionRow) : Prop where
  name : part.name = whole.name
  value : part.value = none ∨ part.value = whole.value
  description : part.description = none ∨ part.description = whole.description

theorem OptionRow.PartOf.refl (row : OptionRow) : row.PartOf row := ⟨rfl, .inr rfl, .inr rfl⟩

/-! ## Lines that are cut short -/

theorem getElem?_none_or_eq (front tokens : List Text) (begins : front <+: tokens) (index : Nat) :
    front[index]? = none ∨ front[index]? = tokens[index]? := by
  obtain ⟨tail, rfl⟩ := begins
  by_cases inside : index < front.length
  · exact .inr (List.getElem?_append_left inside).symm
  · exact .inl (List.getElem?_eq_none (Nat.le_of_not_lt inside))

theorem rowOf?_append (line more : Text) (row : OptionRow) (oneLine : '\n' ∉ line)
    (found : rowOf? line = some row) :
    ∃ whole, rowOf? (line ++ more) = some whole ∧ row.PartOf whole := by
  have begins := Text.quotedTokens_prefix_append line more oneLine
  rw [rowOf?_eq_map] at found ⊢
  obtain ⟨name, first, rfl⟩ := Option.map_eq_some_iff.mp found
  have named : (Text.quotedTokens (line ++ more))[0]? = some name := by
    rcases getElem?_none_or_eq _ _ begins 0 with absent | same
    · rw [first] at absent
      cases absent
    · rw [← same, first]
  rw [named]
  exact ⟨_, rfl, rfl, getElem?_none_or_eq _ _ begins 2, getElem?_none_or_eq _ _ begins 4⟩

/-! ## Documents that are cut short -/

/-- The rows are the first of the others, but the last one may be a part of the other. -/
inductive Truncates : List OptionRow → List OptionRow → Prop
  | empty (rows : List OptionRow) : Truncates [] rows
  | last (kept later : List OptionRow) (row whole : OptionRow) (part : row.PartOf whole) :
      Truncates (kept ++ [row]) (kept ++ whole :: later)

namespace Truncates

variable {short rows : List OptionRow}

theorem length_le (truncates : Truncates short rows) : short.length ≤ rows.length := by
  cases truncates with
  | empty => exact Nat.zero_le _
  | last kept later row whole part =>
      rw [List.length_append, List.length_append, List.length_singleton, List.length_cons]
      omega

theorem getElem?_eq (truncates : Truncates short rows) (index : Nat)
    (earlier : index + 1 < short.length) : short[index]? = rows[index]? := by
  cases truncates with
  | empty => exact absurd earlier (Nat.not_lt_zero _)
  | last kept later row whole part =>
      have inKept : index < kept.length := by simpa using earlier
      rw [List.getElem?_append_left inKept, List.getElem?_append_left inKept]

theorem getLast?_partOf (truncates : Truncates short rows) (row : OptionRow)
    (isLast : short.getLast? = some row) :
    ∃ whole, rows[short.length - 1]? = some whole ∧ row.PartOf whole := by
  cases truncates with
  | empty => cases isLast
  | last kept later found whole part =>
      rw [List.getLast?_concat, Option.some.injEq] at isLast
      exact ⟨whole, by simp, isLast ▸ part⟩

theorem append (kept later : List OptionRow) : Truncates kept (kept ++ later) := by
  rcases List.eq_nil_or_concat kept with rfl | ⟨front, row, rfl⟩
  · exact .empty later
  · rw [List.concat_eq_append, List.append_assoc, List.singleton_append]
    exact .last front later row row (.refl row)

end Truncates

theorem truncates_rows (cut more : Text) :
    Truncates (rows (some cut)) (rows (some (cut ++ more))) := by
  obtain ⟨before, last, first, after, cutLines, -, bothLines⟩ := Text.lines_append cut more
  have oneLine : '\n' ∉ last := Text.oneLine_of_mem_lines cut last (by simp [cutLines])
  rw [rows_filterMap, rows_filterMap, cutLines, bothLines]
  by_cases inHeaders : before.length < headerLines
  · have nothing : (before ++ [last]).drop headerLines = [] := by
      apply List.drop_of_length_le
      rw [List.length_append, List.length_singleton]
      exact inHeaders
    rw [nothing]
    exact .empty _
  · have behind : headerLines ≤ before.length := Nat.le_of_not_lt inHeaders
    rw [List.drop_append_of_le_length behind, List.drop_append_of_le_length behind,
      List.filterMap_append, List.filterMap_append]
    -- Only the line with the cut can be longer in the whole document.
    cases found : rowOf? last with
    | none =>
        rw [List.filterMap_cons_none found, List.filterMap_nil, List.append_nil]
        exact .append _ _
    | some row =>
        obtain ⟨whole, foundWhole, part⟩ := rowOf?_append last first row oneLine found
        rw [List.filterMap_cons_some found, List.filterMap_cons_some foundWhole]
        exact .last _ _ row whole part

theorem rows_append_lineFeed (cut more : Text) :
    rows (some cut) <+: rows (some (cut ++ '\n' :: more)) := by
  obtain ⟨before, last, first, after, cutLines, restLines, bothLines⟩ :=
    Text.lines_append cut ('\n' :: more)
  rw [Text.lines_lineFeed, List.cons.injEq] at restLines
  have split : Text.lines (cut ++ '\n' :: more) = Text.lines cut ++ after := by
    rw [bothLines, cutLines, ← restLines.1, List.append_nil, List.append_assoc,
      List.singleton_append]
  rw [rows_filterMap, rows_filterMap, split, List.drop_append, List.filterMap_append]
  exact List.prefix_append _ _

theorem rows_truncated (content cut : Text) (begins : cut <+: content) :
    (rows (some cut)).length ≤ (rows (some content)).length ∧
      (∀ index, index + 1 < (rows (some cut)).length →
        (rows (some cut))[index]? = (rows (some content))[index]?) ∧
      (∀ row, (rows (some cut)).getLast? = some row →
        ∃ whole, (rows (some content))[(rows (some cut)).length - 1]? = some whole ∧
          row.PartOf whole) ∧
      (cut ++ ['\n'] <+: content → rows (some cut) <+: rows (some content)) := by
  obtain ⟨more, rfl⟩ := begins
  have truncates := truncates_rows cut more
  refine ⟨?length, ?earlier, ?last, ?complete⟩
  case length => exact truncates.length_le
  case earlier => exact truncates.getElem?_eq
  case last => exact truncates.getLast?_partOf
  case complete =>
    rintro ⟨later, split⟩
    rw [List.append_assoc, List.append_cancel_left_eq] at split
    rw [← split]
    exact rows_append_lineFeed cut later

/-- It is cut inside the label of the last description. -/
def wholeDocument : Text :=
  Text.join ['\n'] ["\"".toList, [], "\"a\": \x7b \"value\": \"1\" \x7d,".toList,
    "\"b\": \x7b \"value\": \"2\", \"description\": \"c\" \x7d,".toList]

def cutDocument : Text := wholeDocument.take 53

theorem rows_truncated_label :
    cutDocument <+: wholeDocument ∧
      rows (some cutDocument) =
        [{ name := "a".toList, value := some "1".toList },
         { name := "b".toList, value := some "2".toList }] ∧
      (rows (some wholeDocument))[0]? = some { name := "a".toList, value := some "1".toList } ∧
      ∃ whole, (rows (some wholeDocument))[1]? = some whole ∧
        OptionRow.PartOf { name := "b".toList, value := some "2".toList } whole := by
  have begins : cutDocument <+: wholeDocument := List.take_prefix _ _
  have found : rows (some cutDocument) =
      [{ name := "a".toList, value := some "1".toList },
       { name := "b".toList, value := some "2".toList }] := by decide +kernel
  obtain ⟨-, earlier, last, -⟩ := rows_truncated wholeDocument cutDocument begins
  rw [found] at earlier last
  exact ⟨begins, found, (earlier 0 (by decide)).symm, last _ rfl⟩

end DocScan.Explain
