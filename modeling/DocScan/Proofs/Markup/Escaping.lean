import DocScan.Markup
import Mathlib.Data.List.Basic
import Mathlib.Data.List.Induction

/-!
# Escaped texts

An escaped text has the tags of the text that it shows, each behind an odd number of backslashes, so
that none of them takes effect. Only the backslashes at its end can come in front of a tag that is
written behind it: a single one has been doubled, any other number of them is as it was.
-/

namespace DocScan.Markup

variable {front text rest body tail : Text} {slashes : Nat}

/-! ## Tags -/

/-- Brackets around a text without brackets that begins as the text of a tag does. -/
inductive IsTag : Text → Prop where
  | intro (c : Char) (inner : Text) (opens : opensTag c = true) (unopened : '[' ∉ inner)
      (unclosed : ']' ∉ inner) : IsTag ('[' :: c :: (inner ++ [']']))

theorem tagRest_eq_some_iff :
    tagRest text = some (body, tail) ↔
      ∃ inner, body = inner ++ [']'] ∧ '[' ∉ inner ∧ ']' ∉ inner ∧ text = body ++ tail := by
  constructor
  · intro found
    have split := tagRest_append text body tail found
    induction text generalizing body tail with
    | nil => cases found
    | cons c text ih =>
        unfold tagRest at found
        split at found
        · obtain ⟨rfl, -⟩ := Prod.mk.inj (Option.some.inj found)
          exact ⟨[], rfl, List.not_mem_nil, List.not_mem_nil, split⟩
        · rename_i unclosed
          split at found
          · cases found
          · rename_i unopened
            obtain ⟨⟨rest, after⟩, restFound, same⟩ := Option.map_eq_some_iff.mp found
            obtain ⟨rfl, rfl⟩ := Prod.mk.inj same
            obtain ⟨inner, rfl, free, closedFree, -⟩ :=
              ih restFound (tagRest_append _ _ _ restFound)
            refine ⟨c :: inner, rfl, ?_, ?_, split⟩
            · exact List.not_mem_cons_of_ne_of_not_mem (Ne.symm unopened) free
            · exact List.not_mem_cons_of_ne_of_not_mem (Ne.symm unclosed) closedFree
  · rintro ⟨inner, rfl, unopened, unclosed, rfl⟩
    induction inner with
    | nil => rfl
    | cons c inner ih =>
        rw [List.mem_cons, not_or] at unopened unclosed
        rw [List.cons_append, List.cons_append, tagRest, if_neg (Ne.symm unclosed.1),
          if_neg (Ne.symm unopened.1), ih unopened.2 unclosed.2]
        rfl

theorem tag?_eq_some_iff : tag? text = some (body, tail) ↔ IsTag body ∧ text = body ++ tail := by
  constructor
  · intro found
    refine ⟨?_, (tag?_append text body tail found).1⟩
    unfold tag? at found
    split at found
    · rename_i c rest
      obtain ⟨opens, found⟩ := Option.ite_none_right_eq_some.mp found
      obtain ⟨⟨closed, after⟩, closedFound, same⟩ := Option.map_eq_some_iff.mp found
      obtain ⟨rfl, -⟩ := Prod.mk.inj same
      obtain ⟨inner, rfl, unopened, unclosed, -⟩ := tagRest_eq_some_iff.mp closedFound
      exact .intro c inner opens unopened unclosed
    · cases found
  · rintro ⟨⟨c, inner, opens, unopened, unclosed⟩, rfl⟩
    have closed : tagRest (inner ++ [']'] ++ tail) = some (inner ++ [']'], tail) :=
      tagRest_eq_some_iff.mpr ⟨inner, rfl, unopened, unclosed, rfl⟩
    rw [List.cons_append, List.cons_append, tag?, if_pos opens, closed]
    rfl

theorem IsTag.ends (isTag : IsTag body) : body.getLast? = some ']' := by
  cases isTag with
  | intro c inner =>
      rw [List.getLast?_cons, List.getLast?_cons, List.getLast?_concat]
      rfl

theorem tag?_of_ne {c : Char} (other : c ≠ '[') (rest : Text) : tag? (c :: rest) = none := by
  unfold tag?
  split
  · rename_i same
    exact absurd (List.cons.inj same).1 other
  · rfl

theorem tag?_open_eq_none_iff (c : Char) (rest : Text) :
    tag? ('[' :: c :: rest) = none ↔ (opensTag c = true → tagRest rest = none) := by
  rw [tag?]
  by_cases opens : opensTag c = true
  · simp [opens]
  · simp [opens]

/-- Whatever tag is open in front of the text is not closed in it. -/
def Shut (text : Text) : Prop := tagRest text = none

theorem shut_cons_iff (c : Char) (text : Text) :
    Shut (c :: text) ↔ c ≠ ']' ∧ (c ≠ '[' → Shut text) := by
  unfold Shut
  rw [tagRest]
  by_cases closes : c = ']'
  · simp [closes]
  · by_cases opens : c = '['
    · simp [opens]
    · simp [closes, opens]

theorem shut_nil : Shut [] := rfl

theorem Shut.append (shut : Shut front) (shutRest : Shut rest) : Shut (front ++ rest) := by
  induction front with
  | nil => exact shutRest
  | cons c front ih =>
      rw [shut_cons_iff] at shut
      rw [List.cons_append, shut_cons_iff]
      exact ⟨shut.1, fun unopened => ih (shut.2 unopened)⟩

theorem shut_slashes (slashes : Nat) : Shut (List.replicate slashes '\\') := by
  induction slashes with
  | zero => rfl
  | succ slashes ih => exact (shut_cons_iff _ _).mpr ⟨by decide, fun _ => ih⟩

theorem IsTag.shut (isTag : IsTag body) (rest : Text) : Shut (body ++ rest) := by
  cases isTag with
  | intro c inner => exact (shut_cons_iff _ _).mpr ⟨by decide, fun unopened => absurd rfl unopened⟩

theorem tag?_append_eq_none {c : Char} (untagged : tag? (c :: front) = none) (shut : Shut rest) :
    tag? (c :: (front ++ rest)) = none := by
  by_cases opens : c = '['
  · subst opens
    cases front with
    | nil =>
        cases rest with
        | nil => rfl
        | cons d rest =>
            refine (tag?_open_eq_none_iff d rest).mpr fun opens => ?_
            exact ((shut_cons_iff d rest).mp shut).2 fun bracket => by
              simp [bracket, opensTag] at opens
    | cons d front =>
        refine (tag?_open_eq_none_iff d _).mpr fun opens => ?_
        exact Shut.append ((tag?_open_eq_none_iff d front).mp untagged opens) shut
  · exact tag?_of_ne opens _

/-! ## The end of a text -/

def Unslashed (text : Text) : Prop := text.getLast? ≠ some '\\'

instance (text : Text) : Decidable (Unslashed text) := inferInstanceAs (Decidable (_ ≠ _))

theorem unslashed_nil : Unslashed [] := by decide

theorem unslashed_concat_iff (text : Text) (c : Char) : Unslashed (text ++ [c]) ↔ c ≠ '\\' := by
  simp [Unslashed]

theorem Unslashed.of_append (ends : Unslashed (front ++ rest)) : Unslashed rest := by
  intro last
  rw [Unslashed, List.getLast?_append, last] at ends
  exact ends rfl

/-- What a text with something at its end ends with does not depend on what stands in front. -/
theorem Unslashed.behind (ends : Unslashed rest) (some : rest ≠ []) (front : Text) :
    Unslashed (front ++ rest) := by
  rw [Unslashed, List.getLast?_append, List.getLast?_eq_some_getLast some, Option.some_or,
    ← List.getLast?_eq_some_getLast some]
  exact ends

theorem Unslashed.append (ends : Unslashed front) (endsRest : Unslashed rest) :
    Unslashed (front ++ rest) := by
  rw [Unslashed, List.getLast?_append]
  cases last : rest.getLast? with
  | none => exact ends
  | some c => exact fun slash => endsRest (last.trans slash)

theorem IsTag.unslashed (isTag : IsTag body) (front : Text) : Unslashed (front ++ body) := by
  cases isTag with
  | intro c inner =>
      rw [← List.cons_append, ← List.cons_append, ← List.append_assoc, unslashed_concat_iff]
      decide

/-! ## Cutting -/

theorem piecesAfter_slash (slashes : Nat) (rest : Text) :
    piecesAfter slashes ('\\' :: rest) = piecesAfter (slashes + 1) rest := by
  rw [piecesAfter, if_pos rfl]

theorem piecesAfter_slashes (slashes more : Nat) (rest : Text) :
    piecesAfter slashes (List.replicate more '\\' ++ rest) = piecesAfter (slashes + more) rest := by
  induction more generalizing slashes with
  | zero => rfl
  | succ more ih =>
      rw [List.replicate_succ, List.cons_append, piecesAfter_slash, ih, Nat.add_assoc,
        Nat.add_comm 1]

theorem piecesAfter_tag (slashes : Nat) (isTag : IsTag body) (tail : Text) :
    piecesAfter slashes (body ++ tail) = .tag slashes body :: piecesAfter 0 tail := by
  have found : tag? (body ++ tail) = some (body, tail) := tag?_eq_some_iff.mpr ⟨isTag, rfl⟩
  cases isTag with
  | intro c inner =>
      rw [List.cons_append] at found ⊢
      rw [piecesAfter, if_neg (by decide)]
      split
      · rename_i again
        obtain ⟨rfl, rfl⟩ := Prod.mk.inj (Option.some.inj (found.symm.trans again))
        rfl
      · rename_i missing
        cases found.symm.trans missing

theorem piecesAfter_char (slashes : Nat) {c : Char} (other : c ≠ '\\')
    (untagged : tag? (c :: rest) = none) :
    piecesAfter slashes (c :: rest) =
      List.replicate slashes (.char '\\') ++ .char c :: piecesAfter 0 rest := by
  rw [piecesAfter, if_neg other]
  split
  · rename_i found
    cases untagged.symm.trans found
  · rfl

theorem pieces_slashes (slashes : Nat) :
    pieces (List.replicate slashes '\\') = List.replicate slashes (.char '\\') := by
  rw [pieces, ← List.append_nil (List.replicate slashes '\\'), piecesAfter_slashes, Nat.zero_add,
    piecesAfter]

theorem piecesAfter_append (slashes : Nat) (front : Text)
    (ends : Unslashed (List.replicate slashes '\\' ++ front)) (shut : Shut rest) :
    piecesAfter slashes (front ++ rest) = piecesAfter slashes front ++ pieces rest := by
  fun_induction piecesAfter slashes front with
  | case1 slashes =>
      cases slashes with
      | zero => rfl
      | succ slashes =>
          rw [List.append_nil, List.replicate_succ', unslashed_concat_iff] at ends
          exact absurd rfl ends
  | case2 slashes front ih =>
      rw [List.cons_append, piecesAfter_slash]
      apply ih
      rwa [List.replicate_succ', List.append_assoc, List.singleton_append]
  | case3 slashes c front _ body tail found ih =>
      obtain ⟨isTag, split⟩ := tag?_eq_some_iff.mp found
      rw [split, List.append_assoc, piecesAfter_tag slashes isTag, List.cons_append]
      congr 1
      apply ih
      rw [split, ← List.append_assoc] at ends
      exact ends.of_append
  | case4 slashes c front other untagged ih =>
      rw [List.cons_append, piecesAfter_char slashes other (tag?_append_eq_none untagged shut),
        List.append_assoc, List.cons_append]
      congr 2
      apply ih
      rw [List.append_cons] at ends
      exact ends.of_append

theorem pieces_append (ends : Unslashed front) (shut : Shut rest) :
    pieces (front ++ rest) = pieces front ++ pieces rest :=
  piecesAfter_append 0 front ends shut

theorem pieces_nil : pieces [] = [] := by
  rw [pieces, piecesAfter]
  rfl

theorem pieces_plain_append {words : Text} (unopened : '[' ∉ words) (unslashed : '\\' ∉ words)
    (rest : Text) : pieces (words ++ rest) = words.map Piece.char ++ pieces rest := by
  induction words with
  | nil => rfl
  | cons c words ih =>
      rw [List.mem_cons, not_or] at unopened unslashed
      rw [List.cons_append, pieces,
        piecesAfter_char 0 (Ne.symm unslashed.1) (tag?_of_ne (Ne.symm unopened.1) _), ← pieces,
        ih unopened.2 unslashed.2]
      rfl

theorem pieces_occurrence (ends : Unslashed front) (slashes : Nat) (isTag : IsTag body)
    (tail : Text) :
    pieces (front ++ (List.replicate slashes '\\' ++ (body ++ tail))) =
      pieces front ++ .tag slashes body :: pieces tail := by
  rw [pieces_append ends ((shut_slashes slashes).append (isTag.shut tail)), pieces, pieces,
    piecesAfter_slashes, Nat.zero_add, piecesAfter_tag slashes isTag]
  rfl

theorem exists_of_tag_mem {pending : Nat} (member : .tag slashes body ∈ piecesAfter pending text) :
    ∃ before after, List.replicate pending '\\' ++ text =
        before ++ (List.replicate slashes '\\' ++ (body ++ after)) ∧
      Unslashed before ∧ IsTag body := by
  fun_induction piecesAfter pending text with
  | case1 pending => cases List.eq_of_mem_replicate member
  | case2 pending text ih =>
      obtain ⟨before, after, split, found⟩ := ih member
      rw [List.replicate_succ', List.append_assoc] at split
      exact ⟨before, after, split, found⟩
  | case3 pending c text _ first tail found ih =>
      obtain ⟨isTag, split⟩ := tag?_eq_some_iff.mp found
      rcases List.mem_cons.mp member with here | later
      · obtain ⟨rfl, rfl⟩ := Piece.tag.inj here
        exact ⟨[], tail, by rw [split]; rfl, unslashed_nil, isTag⟩
      · obtain ⟨before, after, again, ends, tagged⟩ := ih later
        refine ⟨List.replicate pending '\\' ++ first ++ before, after, ?_,
          (isTag.unslashed _).append ends, tagged⟩
        rw [split, List.append_assoc, List.append_assoc, ← again]
        rfl
  | case4 pending c text other _ ih =>
      rcases List.mem_append.mp member with slash | member
      · cases List.eq_of_mem_replicate slash
      · rcases List.mem_cons.mp member with here | later
        · cases here
        · obtain ⟨before, after, again, ends, tagged⟩ := ih later
          refine ⟨List.replicate pending '\\' ++ [c] ++ before, after, ?_,
            ((unslashed_concat_iff _ c).mpr other).append ends, tagged⟩
          rw [List.append_assoc, List.append_assoc, ← again]
          rfl

/-- The tags among the pieces are those that occur in the text, each with all the backslashes in
front of it. -/
theorem tag_mem_pieces_iff :
    .tag slashes body ∈ pieces text ↔
      ∃ before after, text = before ++ (List.replicate slashes '\\' ++ (body ++ after)) ∧
        Unslashed before ∧ IsTag body := by
  constructor
  · exact exists_of_tag_mem
  · rintro ⟨before, after, rfl, ends, isTag⟩
    rw [pieces_occurrence ends slashes isTag after]
    exact List.mem_append_right _ List.mem_cons_self

/-! ## Escaping -/

/-- The tag behind one more than twice as many backslashes. -/
def Piece.quoted : Piece → Piece
  | .char c => .char c
  | .tag slashes body => .tag (2 * slashes + 1) body

theorem not_isLive_quoted (piece : Piece) : piece.quoted.isLive = false := by
  cases piece with
  | char c => rfl
  | tag slashes body => simp [Piece.quoted, Piece.isLive]

/-- The text with its tags made literal. The end of it is not looked after yet. -/
def escaped (text : Text) : Text := (pieces text).flatMap Piece.escaped

/-- A text that is escaped behind some backslashes begins with what could follow the bracket of a
tag only if the text itself does. -/
theorem of_opensTag {d : Char} {more : Text}
    (starts : (piecesAfter slashes text).flatMap Piece.escaped = d :: more)
    (opens : opensTag d = true) :
    slashes = 0 ∧ ∃ later, text = d :: later ∧ more = escaped later := by
  have noSlash : '\\' ≠ d := by
    rintro rfl
    exact absurd opens (by decide)
  fun_induction piecesAfter slashes text with
  | case1 slashes =>
      cases slashes with
      | zero => cases starts
      | succ slashes => exact absurd (List.cons.inj starts).1 noSlash
  | case2 slashes text ih => cases (ih starts).1
  | case3 slashes c text _ body tail found ih => exact absurd (List.cons.inj starts).1 noSlash
  | case4 slashes c text _ _ ih =>
      cases slashes with
      | zero =>
          obtain ⟨rfl, rfl⟩ := List.cons.inj starts
          exact ⟨rfl, text, rfl, rfl⟩
      | succ slashes => exact absurd (List.cons.inj starts).1 noSlash

theorem flatMap_escaped_slashes (slashes : Nat) :
    (List.replicate slashes (.char '\\')).flatMap Piece.escaped = List.replicate slashes '\\' := by
  simp [List.flatMap_replicate, Piece.escaped]

theorem shut_escaped (slashes : Nat) (shut : Shut text) :
    Shut ((piecesAfter slashes text).flatMap Piece.escaped) := by
  fun_induction piecesAfter slashes text with
  | case1 slashes =>
      rw [flatMap_escaped_slashes]
      exact shut_slashes slashes
  | case2 slashes text ih => exact ih (((shut_cons_iff _ _).mp shut).2 (by decide))
  | case3 slashes c text _ body tail found ih =>
      -- The bracket of the tag comes before anything that could close another one.
      obtain ⟨isTag, -⟩ := tag?_eq_some_iff.mp found
      rw [List.flatMap_cons, Piece.escaped, List.append_assoc]
      exact (shut_slashes _).append (isTag.shut _)
  | case4 slashes c text _ _ ih =>
      obtain ⟨unclosed, later⟩ := (shut_cons_iff _ _).mp shut
      rw [List.flatMap_append, flatMap_escaped_slashes]
      exact (shut_slashes _).append
        ((shut_cons_iff _ _).mpr ⟨unclosed, fun unopened => ih (later unopened)⟩)

theorem tag?_escaped {c : Char} (untagged : tag? (c :: text) = none) :
    tag? (c :: escaped text) = none := by
  by_cases opens : c = '['
  · subst opens
    cases starts : escaped text with
    | nil => rfl
    | cons d more =>
        refine (tag?_open_eq_none_iff d more).mpr fun opens => ?_
        obtain ⟨-, later, rfl, rfl⟩ := of_opensTag starts opens
        exact shut_escaped 0 ((tag?_open_eq_none_iff d later).mp untagged opens)
  · exact tag?_of_ne opens _

theorem pieces_escapedAfter (slashes : Nat) (text : Text) :
    pieces ((piecesAfter slashes text).flatMap Piece.escaped) =
      (piecesAfter slashes text).map Piece.quoted := by
  fun_induction piecesAfter slashes text with
  | case1 slashes =>
      rw [flatMap_escaped_slashes, pieces_slashes, List.map_replicate]
      rfl
  | case2 slashes text ih => exact ih
  | case3 slashes c text _ body tail found ih =>
      obtain ⟨isTag, -⟩ := tag?_eq_some_iff.mp found
      rw [List.flatMap_cons, Piece.escaped, List.append_assoc, pieces, piecesAfter_slashes,
        Nat.zero_add, piecesAfter_tag _ isTag, List.map_cons, ← ih]
      rfl
  | case4 slashes c text other untagged ih =>
      have literal : tag? (c :: (piecesAfter 0 text).flatMap Piece.escaped) = none :=
        tag?_escaped untagged
      rw [List.flatMap_append, flatMap_escaped_slashes, List.flatMap_cons, Piece.escaped,
        List.singleton_append, pieces, piecesAfter_slashes, Nat.zero_add,
        piecesAfter_char _ other literal, List.map_append, List.map_replicate, List.map_cons, ← ih]
      rfl

theorem pieces_escaped (text : Text) : pieces (escaped text) = (pieces text).map Piece.quoted :=
  pieces_escapedAfter 0 text

theorem getLast?_escapedAfter (slashes : Nat) (text : Text) :
    ((piecesAfter slashes text).flatMap Piece.escaped).getLast? =
      (List.replicate slashes '\\' ++ text).getLast? := by
  fun_induction piecesAfter slashes text with
  | case1 slashes => rw [flatMap_escaped_slashes, List.append_nil]
  | case2 slashes text ih =>
      rw [ih, List.replicate_succ', List.append_assoc, List.singleton_append]
  | case3 slashes c text _ body tail found ih =>
      obtain ⟨isTag, split⟩ := tag?_eq_some_iff.mp found
      rw [split, List.flatMap_cons, Piece.escaped, List.getLast?_append, List.getLast?_append,
        List.getLast?_append, List.getLast?_append, ih, isTag.ends]
      simp
  | case4 slashes c text _ _ ih =>
      rw [List.flatMap_append, List.flatMap_cons, List.getLast?_append, List.getLast?_append,
        List.getLast?_append, ih]
      simp [Piece.escaped, List.getLast?_cons]

theorem unslashed_escaped (ends : Unslashed text) : Unslashed (escaped text) := by
  rw [Unslashed, escaped, pieces, getLast?_escapedAfter]
  exact ends

/-! ## Backslashes at the end -/

theorem exists_trailing (text : Text) :
    ∃ front slashes, text = front ++ List.replicate slashes '\\' ∧
      Unslashed front := by
  induction text using List.reverseRecOn with
  | nil => exact ⟨[], 0, rfl, unslashed_nil⟩
  | append_singleton text c ih =>
      by_cases slash : c = '\\'
      · obtain ⟨front, slashes, rfl, ends⟩ := ih
        refine ⟨front, slashes + 1, ?_, ends⟩
        rw [slash, List.replicate_succ', List.append_assoc]
      · exact ⟨text ++ [c], 0, by simp, (unslashed_concat_iff text c).mpr slash⟩

def trailingSlashes (text : Text) : Nat := (text.reverse.takeWhile (· == '\\')).length

theorem trailingSlashes_eq (ends : Unslashed front) (slashes : Nat) :
    trailingSlashes (front ++ List.replicate slashes '\\') = slashes := by
  have stops : front.reverse.takeWhile (· == '\\') = [] := by
    cases last : front.reverse with
    | nil => rfl
    | cons c rest =>
        have other : c ≠ '\\' := by
          rintro rfl
          rw [Unslashed, ← List.head?_reverse, last] at ends
          exact ends rfl
        rw [List.takeWhile_cons_of_neg (by simpa using other)]
  have same : ∀ c ∈ List.replicate slashes '\\', (c == '\\') = true :=
    fun c member => beq_iff_eq.mpr (List.eq_of_mem_replicate member)
  rw [trailingSlashes, List.reverse_append, List.reverse_replicate,
    List.takeWhile_append_of_pos same, stops, List.append_nil, List.length_replicate]

theorem isSuffixOf_trailing (ends : Unslashed front) (slashes more : Nat) :
    (List.replicate more '\\').isSuffixOf (front ++ List.replicate slashes '\\') =
      decide (more ≤ slashes) := by
  rw [Bool.eq_iff_iff, List.isSuffixOf_iff_suffix, decide_eq_true_iff]
  induction more generalizing slashes with
  | zero => simp
  | succ more ih =>
      cases slashes with
      | zero =>
          rw [List.replicate_zero, List.append_nil, List.replicate_succ']
          constructor
          · rintro ⟨before, rfl⟩
            rw [← List.append_assoc, unslashed_concat_iff] at ends
            exact absurd rfl ends
          · intro le
            exact absurd le (Nat.not_succ_le_zero more)
      | succ slashes =>
          rw [List.replicate_succ', List.replicate_succ', ← List.append_assoc,
            List.suffix_append_inj_of_length_eq rfl, ih, Nat.add_le_add_iff_right]
          exact and_iff_left rfl

theorem endsInSingleSlash_eq (ends : Unslashed front) (slashes : Nat) :
    endsInSingleSlash (front ++ List.replicate slashes '\\') = decide (slashes = 1) := by
  have single := isSuffixOf_trailing ends slashes 1
  have double := isSuffixOf_trailing ends slashes 2
  rw [List.replicate_one] at single
  rw [List.replicate_succ, List.replicate_one] at double
  rw [endsInSingleSlash, single, double, Bool.eq_iff_iff]
  simp only [Bool.and_eq_true, Bool.not_eq_true', decide_eq_true_iff, decide_eq_false_iff_not]
  omega

/-- The number of backslashes at the end of a text once it is escaped. -/
def closing (slashes : Nat) : Nat := if slashes = 1 then 2 else slashes

theorem append_closing (ends : Unslashed front) (slashes : Nat) :
    (if endsInSingleSlash (front ++ List.replicate slashes '\\') then
        front ++ List.replicate slashes '\\' ++ ['\\']
      else front ++ List.replicate slashes '\\') =
      front ++ List.replicate (closing slashes) '\\' := by
  rw [endsInSingleSlash_eq ends, closing]
  by_cases single : slashes = 1
  · subst single
    rw [decide_eq_true rfl, if_pos rfl, if_pos rfl, List.append_assoc]
    rfl
  · rw [decide_eq_false single, if_neg Bool.false_ne_true, if_neg single]

theorem pieces_trailing (ends : Unslashed front) (slashes : Nat) (shut : Shut rest) :
    pieces (front ++ (List.replicate slashes '\\' ++ rest)) =
      pieces front ++ piecesAfter slashes rest := by
  rw [pieces_append ends ((shut_slashes slashes).append shut), pieces, pieces,
    piecesAfter_slashes, Nat.zero_add]

theorem escape_trailing (ends : Unslashed front) (slashes : Nat) :
    escape (front ++ List.replicate slashes '\\') =
      escaped front ++ List.replicate (closing slashes) '\\' := by
  have cut := pieces_trailing ends slashes shut_nil
  rw [List.append_nil, piecesAfter] at cut
  have last := unslashed_escaped ends
  rw [escape, cut, List.flatMap_append, flatMap_escaped_slashes, ← escaped]
  exact append_closing last slashes

theorem pieces_escape_append (ends : Unslashed front) (slashes : Nat)
    (shut : Shut rest) :
    pieces (escape (front ++ List.replicate slashes '\\') ++ rest) =
      (pieces front).map Piece.quoted ++ piecesAfter (closing slashes) rest := by
  have last := unslashed_escaped ends
  rw [escape_trailing ends, List.append_assoc, pieces_trailing last _ shut, pieces_escaped]

/-! ## Tags that take effect -/

theorem eq_nil_of_pieces_eq_nil (empty : pieces text = []) : text = [] := by
  rw [← text_pieces text, empty]
  rfl

/-- The tag takes effect where it stands in the markup, between the texts before and after it. -/
def LiveAt (markup before body after : Text) : Prop :=
  ∃ slashes, markup = before ++ (List.replicate slashes '\\' ++ (body ++ after)) ∧
    Unslashed before ∧ IsTag body ∧ slashes % 2 = 0

section

variable {markup before after opening closing : Text} {inner : List Piece}

theorem liveAt_first (cut : pieces (body ++ after) = .tag 0 body :: inner) :
    LiveAt (body ++ after) [] body after := by
  obtain ⟨-, -, -, -, isTag⟩ := tag_mem_pieces_iff.mp (cut ▸ List.mem_cons_self)
  exact ⟨0, rfl, unslashed_nil, isTag, rfl⟩

theorem liveAt_last (cut : pieces (before ++ body) = inner ++ [.tag 0 body]) :
    LiveAt (before ++ body) before body [] := by
  have member : .tag 0 body ∈ pieces (before ++ body) := by
    rw [cut]
    exact List.mem_append_right inner (List.mem_singleton_self _)
  obtain ⟨-, -, -, -, isTag⟩ := tag_mem_pieces_iff.mp member
  obtain ⟨front, slashes, rfl, ends⟩ := exists_trailing before
  have here := pieces_occurrence ends slashes isTag []
  rw [List.append_nil, ← List.append_assoc, cut, pieces_nil] at here
  obtain ⟨-, same⟩ := List.append_inj' here rfl
  obtain ⟨rfl, -⟩ := Piece.tag.inj (List.singleton_inj.mp same)
  refine ⟨0, ?_, ?_, isTag, rfl⟩
  · rw [List.append_nil]
    rfl
  · rwa [List.replicate_zero, List.append_nil]

theorem LiveAt.cases (cut : pieces markup = .tag 0 opening :: (inner ++ [.tag 0 closing]))
    (literal : ∀ piece ∈ inner, piece.isLive = false) (live : LiveAt markup before body after) :
    before = [] ∧ body = opening ∧ markup = opening ++ after ∨
      after = [] ∧ body = closing ∧ markup = before ++ closing := by
  obtain ⟨slashes, split, ends, isTag, even⟩ := live
  have here := pieces_occurrence ends slashes isTag after
  rw [← split, cut] at here
  cases earlier : pieces before with
  | nil =>
      rw [earlier] at here
      obtain ⟨same, -⟩ := List.cons.inj here
      obtain ⟨rfl, rfl⟩ := Piece.tag.inj same
      obtain rfl := eq_nil_of_pieces_eq_nil earlier
      exact .inl ⟨rfl, rfl, split⟩
  | cons first more =>
      rw [earlier, List.cons_append] at here
      obtain ⟨-, others⟩ := List.cons.inj here
      rcases List.eq_nil_or_concat (pieces after) with empty | ⟨between, last, later⟩
      · rw [empty] at others
        obtain ⟨-, same⟩ := List.append_inj' others rfl
        obtain ⟨rfl, rfl⟩ := Piece.tag.inj (List.singleton_inj.mp same)
        obtain rfl := eq_nil_of_pieces_eq_nil empty
        refine .inr ⟨rfl, rfl, ?_⟩
        rw [split, List.append_nil]
        rfl
      · -- The tag is one of those that take no effect.
        rw [later, List.concat_eq_append, ← List.cons_append, ← List.append_assoc] at others
        obtain ⟨inside, -⟩ := List.append_inj' others rfl
        have member : .tag slashes body ∈ inner := by
          rw [inside]
          exact List.mem_append_right more List.mem_cons_self
        have shown := literal _ member
        rw [Piece.isLive, even] at shown
        cases shown

/-- In a markup that begins with a tag and ends with one, and whose other tags take no effect, these
two take effect, where they stand, and nothing else does. -/
theorem liveAt_iff (cut : pieces markup = .tag 0 opening :: (inner ++ [.tag 0 closing]))
    (literal : ∀ piece ∈ inner, piece.isLive = false) (before body after : Text) :
    LiveAt markup before body after ↔
      before = [] ∧ body = opening ∧ markup = opening ++ after ∨
        after = [] ∧ body = closing ∧ markup = before ++ closing := by
  refine ⟨LiveAt.cases cut literal, ?_⟩
  rintro (⟨rfl, rfl, rfl⟩ | ⟨rfl, rfl, rfl⟩)
  · exact liveAt_first cut
  · exact liveAt_last (cut.trans List.cons_append.symm)

end

/-! ## What shows -/

theorem pieces_escape (ends : Unslashed front) (slashes : Nat) :
    pieces (escape (front ++ List.replicate slashes '\\')) =
      (pieces front).map Piece.quoted ++ List.replicate (closing slashes) (.char '\\') := by
  have cut := pieces_escape_append ends slashes shut_nil
  rwa [List.append_nil, piecesAfter] at cut

/-- No tag in the text takes effect. -/
def Inert (text : Text) : Prop :=
  ∀ before slashes body after,
    text = before ++ (List.replicate slashes '\\' ++ (body ++ after)) →
    Unslashed before → IsTag body → slashes % 2 = 1

theorem inert_escape (text : Text) : Inert (escape text) := by
  intro before slashes body after split ends isTag
  have member : .tag slashes body ∈ pieces (escape text) :=
    tag_mem_pieces_iff.mpr ⟨before, after, split, ends, isTag⟩
  obtain ⟨front, trailing, rfl, ends⟩ := exists_trailing text
  rw [pieces_escape ends, List.mem_append] at member
  rcases member with tagged | slash
  · obtain ⟨piece, -, same⟩ := List.mem_map.mp tagged
    have literal := not_isLive_quoted piece
    rw [same, Piece.isLive, beq_eq_false_iff_ne] at literal
    omega
  · cases List.eq_of_mem_replicate slash

theorem plain_escape (text : Text) :
    plain (escape text) = if endsInSingleSlash text then text ++ ['\\'] else text := by
  obtain ⟨front, slashes, rfl, ends⟩ := exists_trailing text
  have shown : plain (escape (front ++ List.replicate slashes '\\')) =
      front ++ List.replicate (closing slashes) '\\' := by
    rw [plain, pieces_escape ends, List.flatMap_append, List.flatMap_map]
    congr 1
    · conv_rhs => rw [← text_pieces front]
      apply List.flatMap_congr
      intro piece _
      cases piece with
      | char c => rfl
      | tag slashes body =>
          have half : (2 * slashes + 1) / 2 = slashes := by omega
          have odd : (2 * slashes + 1) % 2 = 1 := by omega
          simp [Piece.quoted, Piece.text, half, odd]
    · simp [List.flatMap_replicate]
  rw [shown]
  exact (append_closing ends slashes).symm

theorem plain_escape_of_unslashed (ends : Unslashed text) : plain (escape text) = text := by
  have single := endsInSingleSlash_eq ends 0
  rw [List.replicate_zero, List.append_nil] at single
  rw [plain_escape, single]
  rfl

end DocScan.Markup
