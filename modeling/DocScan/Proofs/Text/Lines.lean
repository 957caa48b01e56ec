import DocScan.Text.Basic

/-!
# The lines of joined texts

Cutting at a mark and joining with it are inverse to each other as soon as the pieces are free of
the mark. Both are the operations of the list library under other names, which has the laws.
-/

namespace DocScan.Text

theorem split_eq_splitOn (mark : Char) (text : Text) : split mark text = text.splitOn mark := by
  induction text with
  | nil => rfl
  | cons c rest ih =>
      have pieces := split_ne_nil mark rest
      rw [List.splitOn_cons_eq_if_modifyHead, ← ih, split]
      by_cases isMark : c = mark
      · simp [isMark]
      · cases found : split mark rest with
        | nil => exact absurd found pieces
        | cons piece more => simp [isMark]

theorem join_eq_intercalate (mark : Text) (pieces : List Text) :
    join mark pieces = mark.intercalate pieces := by
  induction pieces with
  | nil => rfl
  | cons piece more ih =>
      cases more with
      | nil => simp [join]
      | cons next more => rw [join, ih, List.intercalate_cons_cons]

theorem lines_join (pieces : List Text) (nonempty : pieces ≠ [])
    (oneLine : ∀ piece ∈ pieces, '\n' ∉ piece) : lines (join ['\n'] pieces) = pieces := by
  rw [lines, split_eq_splitOn, join_eq_intercalate]
  exact List.splitOn_intercalate '\n' oneLine nonempty

theorem mark_not_mem_of_mem_split (mark : Char) (text piece : Text)
    (member : piece ∈ split mark text) : mark ∉ piece := by
  induction text generalizing piece with
  | nil => simp_all [split]
  | cons c rest ih =>
      by_cases isMark : c = mark
      · rw [split, if_pos isMark] at member
        rcases List.mem_cons.mp member with rfl | later
        · simp
        · exact ih piece later
      · rw [split, if_neg isMark] at member
        cases found : split mark rest with
        | nil => exact absurd found (split_ne_nil mark rest)
        | cons first more =>
            rw [found] at member ih
            rcases List.mem_cons.mp member with rfl | later
            · have free := ih first (by simp)
              simp [Ne.symm isMark, free]
            · exact ih piece (by simp [later])

theorem oneLine_of_mem_lines (text line : Text) (member : line ∈ lines text) : '\n' ∉ line :=
  mark_not_mem_of_mem_split '\n' text line member

/-! ## Lines of a text piece by piece -/

theorem lines_lineFeed (text : Text) : lines ('\n' :: text) = [] :: lines text := by
  rw [lines, split, if_pos rfl, lines]

theorem lines_cons_of_ne (c : Char) (text line : Text) (more : List Text) (notBreak : c ≠ '\n')
    (cut : lines text = line :: more) : lines (c :: text) = (c :: line) :: more := by
  rw [lines] at cut
  rw [lines, split, if_neg notBreak, cut]

theorem lines_append (front rest : Text) : ∃ before last first after,
    lines front = before ++ [last] ∧ lines rest = first :: after ∧
      lines (front ++ rest) = before ++ (last ++ first) :: after := by
  induction front with
  | nil =>
      obtain ⟨first, after, cut⟩ := List.exists_cons_of_ne_nil (split_ne_nil '\n' rest)
      exact ⟨[], [], first, after, rfl, cut, cut⟩
  | cons c front ih =>
      obtain ⟨before, last, first, after, cutFront, cutRest, cutBoth⟩ := ih
      by_cases isBreak : c = '\n'
      · refine ⟨[] :: before, last, first, after, ?_, cutRest, ?_⟩
        · rw [isBreak, lines_lineFeed, cutFront, List.cons_append]
        · rw [isBreak, List.cons_append, lines_lineFeed, cutBoth, List.cons_append]
      · -- The character goes to the first line, which is also the last one if there is no other.
        cases before with
        | nil =>
            refine ⟨[], c :: last, first, after, ?_, cutRest, ?_⟩
            · exact lines_cons_of_ne c front last [] isBreak cutFront
            · exact lines_cons_of_ne c _ (last ++ first) after isBreak cutBoth
        | cons line before =>
            refine ⟨(c :: line) :: before, last, first, after, ?_, cutRest, ?_⟩
            · exact lines_cons_of_ne c front line _ isBreak cutFront
            · exact lines_cons_of_ne c _ line _ isBreak cutBoth

end DocScan.Text
