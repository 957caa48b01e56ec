import DocScan.Text.Search

/-!
# Texts cut at a mark

Two texts that are cut at the same first mark are compared piece by piece, and a search for
something that starts with a mark passes over whatever is free of it.
-/

namespace DocScan.Text

theorem append_cons_prefix_iff (mark : Char) (left right x y : Text) (leftFree : mark ∉ left)
    (rightFree : mark ∉ right) :
    left ++ mark :: x <+: right ++ mark :: y ↔ left = right ∧ x <+: y := by
  induction left generalizing right with
  | nil =>
      cases right with
      | nil => simp
      | cons c right =>
          rw [List.mem_cons, not_or] at rightFree
          simp [rightFree.1]
  | cons c left ih =>
      rw [List.mem_cons, not_or] at leftFree
      cases right with
      | nil => simp [Ne.symm leftFree.1]
      | cons d right =>
          rw [List.mem_cons, not_or] at rightFree
          rw [List.cons_append, List.cons_append, List.cons_prefix_cons,
            ih right leftFree.2 rightFree.2, List.cons.injEq, and_assoc]

theorem append_cons_eq_iff (mark : Char) (front rest left right : Text) (free : mark ∉ right) :
    front ++ mark :: rest = left ++ mark :: right ↔
      (front = left ∧ rest = right) ∨
        ∃ middle, left = front ++ mark :: middle ∧ rest = middle ++ mark :: right := by
  constructor
  · intro same
    rcases List.append_eq_append_iff.mp same with ⟨gap, cut, back⟩ | ⟨gap, cut, back⟩
    · cases gap with
      | nil =>
          rw [List.append_nil] at cut
          exact .inl ⟨cut.symm, (List.cons.inj back).2⟩
      | cons c gap =>
          rw [List.cons_append, List.cons.injEq] at back
          exact .inr ⟨gap, back.1 ▸ cut, back.2⟩
    · cases gap with
      | nil =>
          rw [List.append_nil] at cut
          exact .inl ⟨cut, (List.cons.inj back).2.symm⟩
      | cons c gap =>
          rw [List.cons_append, List.cons.injEq] at back
          exact absurd (back.2 ▸ List.mem_append_right gap (List.mem_cons_self)) free
  · rintro (⟨rfl, rfl⟩ | ⟨middle, rfl, rfl⟩)
    · rfl
    · rw [List.append_assoc, List.cons_append]

/-! ## Searching -/

theorem after_append (marker rest : Text) : after marker (marker ++ rest) = some rest := by
  have found : marker.isPrefixOf (marker ++ rest) = true :=
    List.isPrefixOf_iff_prefix.mpr (List.prefix_append marker rest)
  rw [after.eq_def, if_pos found, List.drop_left]

theorem after_cons_of_not_prefix (marker : Text) (c : Char) (rest : Text)
    (other : ¬ marker <+: c :: rest) : after marker (c :: rest) = after marker rest := by
  rw [after, if_neg (mt List.isPrefixOf_iff_prefix.mp other)]

theorem after_append_of_not_mem (mark : Char) (marker gap rest : Text) (free : mark ∉ gap) :
    after (mark :: marker) (gap ++ rest) = after (mark :: marker) rest := by
  induction gap with
  | nil => rfl
  | cons c gap ih =>
      rw [List.mem_cons, not_or] at free
      have other : ¬ mark :: marker <+: c :: (gap ++ rest) := by
        rw [List.cons_prefix_cons]
        exact fun both => free.1 both.1
      rw [List.cons_append, after_cons_of_not_prefix _ c _ other, ih free.2]

theorem after_eq_none_iff (marker text : Text) : after marker text = none ↔ ¬ marker <:+: text := by
  fun_induction after marker text with
  | case1 text here =>
      simpa using (List.isPrefixOf_iff_prefix.mp here).isInfix
  | case2 absent =>
      rw [List.isPrefixOf_iff_prefix, List.prefix_nil] at absent
      simpa using absent
  | case3 c rest elsewhere ih =>
      rw [List.isPrefixOf_iff_prefix] at elsewhere
      simp [ih, List.infix_cons_iff, elsewhere]

/-- The text is cut at the first occurrence of the marker. -/
structure FirstCut (marker text front rest : Text) : Prop where
  cut : text = front ++ marker ++ rest
  first : ∀ earlier : Text, earlier.length < front.length → ¬ earlier ++ marker <+: text

theorem firstCut_at_start (marker text front rest : Text) (here : marker <+: text) :
    FirstCut marker text front rest ↔ front = [] ∧ text = marker ++ rest := by
  constructor
  · rintro ⟨cut, first⟩
    cases front with
    | nil => exact ⟨rfl, cut⟩
    | cons c front => exact absurd here (first [] (Nat.succ_pos _))
  · rintro ⟨rfl, cut⟩
    exact ⟨cut, fun earlier shorter => absurd shorter (Nat.not_lt_zero _)⟩

theorem firstCut_cons (marker text rest : Text) (c : Char) (elsewhere : ¬ marker <+: c :: text) :
    (∃ front, FirstCut marker (c :: text) front rest) ↔
      ∃ front, FirstCut marker text front rest := by
  constructor
  · rintro ⟨front, cut, first⟩
    cases front with
    | nil => exact absurd ⟨rest, cut.symm⟩ elsewhere
    | cons d front =>
        rw [List.cons_append, List.cons_append, List.cons.injEq] at cut
        refine ⟨front, cut.2, fun earlier shorter starts => ?_⟩
        apply first (c :: earlier) (by simpa using shorter)
        rw [List.cons_append, List.cons_prefix_cons]
        exact ⟨rfl, starts⟩
  · rintro ⟨front, cut, first⟩
    refine ⟨c :: front, by rw [cut]; rfl, fun earlier shorter starts => ?_⟩
    cases earlier with
    | nil => exact elsewhere starts
    | cons d earlier =>
        rw [List.cons_append, List.cons_prefix_cons] at starts
        exact first earlier (by simpa using shorter) starts.2

theorem after_eq_some_iff (marker text rest : Text) :
    after marker text = some rest ↔ ∃ front, FirstCut marker text front rest := by
  fun_induction after marker text with
  | case1 text here =>
      rw [List.isPrefixOf_iff_prefix] at here
      simp only [firstCut_at_start marker text _ rest here, exists_eq_left]
      obtain ⟨tail, rfl⟩ := here
      rw [List.drop_left, Option.some.injEq, List.append_cancel_left_eq]
  | case2 absent =>
      rw [List.isPrefixOf_iff_prefix] at absent
      constructor
      · intro found
        cases found
      · rintro ⟨front, cut, -⟩
        have empty := List.append_eq_nil_iff.mp (List.append_eq_nil_iff.mp cut.symm).1
        exact absurd (empty.2 ▸ List.nil_prefix) absent
  | case3 c text elsewhere ih =>
      rw [List.isPrefixOf_iff_prefix] at elsewhere
      rw [ih, firstCut_cons marker text rest c elsewhere]

theorem FirstCut.of_occurrence {marker text front rest : Text}
    (found : FirstCut marker text front rest) (other tail : Text)
    (occurs : text = other ++ marker ++ tail) : front <+: other ∧ tail <:+ rest := by
  have notEarlier : front.length ≤ other.length := by
    apply Nat.le_of_not_lt
    intro earlier
    exact found.first other earlier ⟨tail, occurs.symm⟩
  have lengths := congrArg List.length (found.cut.symm.trans occurs)
  simp only [List.length_append] at lengths
  have shorter : tail.length ≤ rest.length := by omega
  constructor
  · have foundFront : front <+: text := ⟨marker ++ rest, by rw [found.cut, List.append_assoc]⟩
    have otherFront : other <+: text := ⟨marker ++ tail, by rw [occurs, List.append_assoc]⟩
    exact List.prefix_of_prefix_length_le foundFront otherFront notEarlier
  · have foundRest : rest <:+ text := ⟨front ++ marker, found.cut.symm⟩
    have otherRest : tail <:+ text := ⟨other ++ marker, occurs.symm⟩
    exact List.suffix_of_suffix_length_le otherRest foundRest shorter

/-- The search cuts at the first occurrence, and fails only if there is none. Every occurrence, also
one that overlaps the first, begins there or behind it and leaves no more of the text. -/
theorem after_iff_firstCut (marker text : Text) :
    (∀ rest, after marker text = some rest ↔ ∃ front, FirstCut marker text front rest) ∧
      (after marker text = none ↔ ¬ marker <:+: text) ∧
      ∀ other tail, text = other ++ marker ++ tail → ∃ front rest,
        FirstCut marker text front rest ∧ after marker text = some rest ∧
          front <+: other ∧ tail <:+ rest := by
  refine ⟨after_eq_some_iff marker text, after_eq_none_iff marker text, ?_⟩
  intro other tail occurs
  have inside : marker <:+: text := ⟨other, tail, occurs.symm⟩
  cases found : after marker text with
  | none => exact absurd inside ((after_eq_none_iff marker text).mp found)
  | some rest =>
      obtain ⟨front, cut⟩ := (after_eq_some_iff marker text rest).mp found
      exact ⟨front, rest, cut, rfl, cut.of_occurrence other tail occurs⟩

def quotedLetter : Text := ['"', 'a', '"']

/-- The letter is quoted twice with one quote for both, and a quote in front begins nothing. -/
def sharedQuote : Text := ['"', '"', 'a', '"', 'a', '"', 'b']

theorem after_iff_firstCut_sharedQuote :
    sharedQuote = ['"', '"', 'a'] ++ quotedLetter ++ ['b'] ∧
      (∃ front, FirstCut quotedLetter sharedQuote front ['a', '"', 'b']) ∧
      ∃ front rest, FirstCut quotedLetter sharedQuote front rest ∧
        after quotedLetter sharedQuote = some rest ∧ front <+: ['"', '"', 'a'] ∧
          ['b'] <:+ rest := by
  obtain ⟨found, -, anywhere⟩ := after_iff_firstCut quotedLetter sharedQuote
  have first : after quotedLetter sharedQuote = some ['a', '"', 'b'] := by decide
  exact ⟨rfl, (found _).mp first, anywhere _ _ rfl⟩

theorem after_eq_none_of_prefix (marker front text : Text) (starts : front <+: text)
    (absent : after marker text = none) : after marker front = none := by
  rw [after_eq_none_iff] at absent ⊢
  exact fun inside => absent (inside.trans starts.isInfix)

theorem after_of_not_mem (mark : Char) (marker text : Text) (free : mark ∉ text) :
    after (mark :: marker) text = none := by
  rw [after_eq_none_iff]
  exact fun inside => free (inside.subset (by simp))

theorem beforeLast_append (mark : Char) (front tail : Text) (free : mark ∉ tail) :
    beforeLast mark (front ++ mark :: tail) = some front := by
  induction front with
  | nil =>
      have none := (beforeLast_eq_none_iff mark tail).mpr free
      simp [beforeLast, none]
  | cons c front ih => rw [List.cons_append, beforeLast, ih]

theorem beforeLast_eq_some_iff (mark : Char) (text front : Text) :
    beforeLast mark text = some front ↔ ∃ tail, text = front ++ mark :: tail ∧ mark ∉ tail := by
  constructor
  · intro found
    induction text generalizing front with
    | nil => cases found
    | cons c rest ih =>
        rw [beforeLast] at found
        cases later : beforeLast mark rest with
        | some more =>
            rw [later, Option.some.injEq] at found
            obtain ⟨tail, cut, free⟩ := ih more later
            exact ⟨tail, by rw [← found, cut, List.cons_append], free⟩
        | none =>
            rw [later] at found
            obtain ⟨isMark, same⟩ := Option.ite_none_right_eq_some.mp found
            cases same
            have free := (beforeLast_eq_none_iff mark rest).mp later
            exact ⟨rest, by rw [isMark, List.nil_append], free⟩
  · rintro ⟨tail, rfl, free⟩
    exact beforeLast_append mark front tail free

end DocScan.Text
