import DocScan.Text.Quoted

/-!
# The tokens of a line

Quotes pair off from the left: a token stands between an odd quote and the next one. Every law below
follows from four equations, one for each way in which a scan can go on: no quote is left, a text
without quotes is skipped, a last quote has no partner, and a pair of quotes holds a token.
-/

namespace DocScan.Text

/-! ## Texts inside a line -/

/-- The text can stand between two quotes on one line. -/
def IsInline (text : Text) : Prop := '"' ∉ text ∧ '\n' ∉ text

instance : DecidablePred IsInline := fun text =>
  inferInstanceAs (Decidable ('"' ∉ text ∧ '\n' ∉ text))

abbrev Inline := { text : Text // IsInline text }

def Inline.empty : Inline := ⟨[], by decide⟩

/-- The key of descriptions in generated documents of either kind. -/
def descriptionKey : Inline := ⟨"description".toList, by decide⟩

@[simp] theorem Inline.val_empty : Inline.empty.val = [] := rfl

@[simp] theorem val_descriptionKey : descriptionKey.val = "description".toList := rfl

/-- A text within one line. It may hold quotes. -/
abbrev OneLine := { text : Text // '\n' ∉ text }

def quoted (text : Text) : Text := '"' :: text ++ ['"']

theorem quoted_append (text rest : Text) : quoted text ++ rest = '"' :: (text ++ '"' :: rest) := by
  simp [quoted]

theorem lineFeed_not_mem_quoted (text : Inline) : '\n' ∉ quoted text.val := by
  simp [quoted, text.property.2]

/-! ## Scanning -/

theorem closing_append (token tail : Text) (inline : IsInline token) :
    closing (token ++ '"' :: tail) = some (token, tail) := by
  induction token with
  | nil => simp [closing]
  | cons c token ih =>
      obtain ⟨noQuote, noBreak⟩ := inline
      rw [List.mem_cons, not_or] at noQuote noBreak
      rw [List.cons_append, closing, if_neg (Ne.symm noQuote.1), if_neg (Ne.symm noBreak.1),
        ih ⟨noQuote.2, noBreak.2⟩, Option.map_some]

theorem closing_eq_some (text token tail : Text) (closed : closing text = some (token, tail)) :
    text = token ++ '"' :: tail ∧ IsInline token := by
  induction text generalizing token with
  | nil => simp [closing] at closed
  | cons c rest ih =>
      rw [closing] at closed
      split at closed
      · rename_i isQuote
        cases closed
        simp [isQuote, IsInline]
      · rename_i notQuote
        split at closed
        · cases closed
        · rename_i notBreak
          obtain ⟨⟨inner, after⟩, found, same⟩ := Option.map_eq_some_iff.mp closed
          cases same
          obtain ⟨split, noQuote, noBreak⟩ := ih inner found
          constructor
          · rw [split, List.cons_append]
          · simp [IsInline, Ne.symm notQuote, Ne.symm notBreak, noQuote, noBreak]

@[simp] theorem quotedTokens_nil : quotedTokens [] = [] := by
  rw [quotedTokens]

theorem quotedTokens_cons_of_ne (c : Char) (rest : Text) (notQuote : c ≠ '"') :
    quotedTokens (c :: rest) = quotedTokens rest := by
  rw [quotedTokens, if_neg notQuote]

theorem quotedTokens_append_of_not_mem (gap rest : Text) (free : '"' ∉ gap) :
    quotedTokens (gap ++ rest) = quotedTokens rest := by
  induction gap with
  | nil => rfl
  | cons c gap ih =>
      rw [List.mem_cons, not_or] at free
      rw [List.cons_append, quotedTokens_cons_of_ne c _ (Ne.symm free.1), ih free.2]

theorem quotedTokens_of_not_mem (text : Text) (free : '"' ∉ text) : quotedTokens text = [] := by
  simpa using quotedTokens_append_of_not_mem text [] free

theorem quotedTokens_of_closed {rest token tail : Text}
    (closed : closing rest = some (token, tail)) :
    quotedTokens ('"' :: rest) = token :: quotedTokens tail := by
  rw [quotedTokens, if_pos rfl]
  split
  · rename_i found behind again
    rw [closed, Option.some.injEq, Prod.mk.injEq] at again
    rw [again.1, again.2]
  · rename_i unclosed
    rw [closed] at unclosed
    cases unclosed

theorem quotedTokens_of_unclosed {rest : Text} (unclosed : closing rest = none) :
    quotedTokens ('"' :: rest) = quotedTokens rest := by
  rw [quotedTokens, if_pos rfl]
  split
  · rename_i token tail closed
    rw [unclosed] at closed
    cases closed
  · rfl

theorem quotedTokens_open (rest : Text) (free : '"' ∉ rest) : quotedTokens ('"' :: rest) = [] := by
  cases closed : closing rest with
  | none => rw [quotedTokens_of_unclosed closed, quotedTokens_of_not_mem rest free]
  | some found =>
      have holds := (closing_eq_some rest found.1 found.2 closed).1
      simp [holds] at free

theorem quotedTokens_quoted_append (token rest : Text) (inline : IsInline token) :
    quotedTokens (quoted token ++ rest) = token :: quotedTokens rest := by
  rw [quoted_append, quotedTokens_of_closed (closing_append token rest inline)]

theorem quotedTokens_gap_quoted (gap token rest : Text) (free : '"' ∉ gap)
    (inline : IsInline token) :
    quotedTokens (gap ++ (quoted token ++ rest)) = token :: quotedTokens rest := by
  rw [quotedTokens_append_of_not_mem gap _ free, quotedTokens_quoted_append token rest inline]

theorem inline_of_mem_quotedTokens (text token : Text) (member : token ∈ quotedTokens text) :
    IsInline token := by
  -- Only a closed token enters the list; an open quote and any other character add nothing.
  fun_induction quotedTokens text with
  | case1 => cases member
  | case2 rest found tail closed ih =>
      rcases List.mem_cons.mp member with rfl | later
      · exact (closing_eq_some rest token tail closed).2
      · exact ih later
  | case3 rest _ ih => exact ih member
  | case4 c rest _ ih => exact ih member

/-! ## The ordinals of marks -/

/-- What follows the first occurrences of a mark, as many as are asked for. -/
def behind (mark : Char) : Nat → Text → Text
  | 0, text => text
  | count + 1, text => behind mark count (text.dropWhile (· != mark)).tail

/-- The text between the occurrence of a mark with that ordinal, counted from one, and the next. -/
def between (mark : Char) (ordinal : Nat) (text : Text) : Text :=
  (behind mark ordinal text).takeWhile (· != mark)

theorem between_succ_append (mark : Char) (ordinal : Nat) (front rest : Text)
    (free : mark ∉ front) :
    between mark (ordinal + 1) (front ++ mark :: rest) = between mark ordinal rest := by
  have skipped : (front ++ mark :: rest).dropWhile (· != mark) = mark :: rest := by
    rw [List.dropWhile_append_of_pos]
    · simp
    · intro c member
      simpa using ne_of_mem_of_not_mem member free
  rw [between, behind, skipped, List.tail_cons, between]

theorem between_zero_append (mark : Char) (front rest : Text) (free : mark ∉ front) :
    between mark 0 (front ++ mark :: rest) = front := by
  rw [between, behind, List.takeWhile_append_of_pos]
  · simp
  · intro c member
    simpa using ne_of_mem_of_not_mem member free

/-- Every text holds no mark, or one, or two with a text of the same kind behind them. -/
@[elab_as_elim]
theorem pairs_induction {motive : Text → Prop} (mark : Char)
    (unmarked : ∀ text, mark ∉ text → motive text)
    (single : ∀ front rest, mark ∉ front → mark ∉ rest → motive (front ++ mark :: rest))
    (pair : ∀ front inner rest, mark ∉ front → mark ∉ inner → motive rest →
      motive (front ++ mark :: (inner ++ mark :: rest)))
    (text : Text) : motive text := by
  by_cases first : mark ∈ text
  · obtain ⟨front, more, split, free⟩ := List.eq_append_cons_of_mem first
    by_cases second : mark ∈ more
    · obtain ⟨inner, rest, splitMore, freeInner⟩ := List.eq_append_cons_of_mem second
      have shorter : rest.length < text.length := by
        simp only [split, splitMore, List.length_append, List.length_cons]
        omega
      rw [split, splitMore]
      exact pair front inner rest free freeInner (pairs_induction mark unmarked single pair rest)
    · rw [split]
      exact single front more free second
  · exact unmarked text first
termination_by text.length

theorem quotedTokens_eq_between (line : Text) (oneLine : '\n' ∉ line) :
    quotedTokens line =
      (List.range (line.count '"' / 2)).map fun pair => between '"' (2 * pair + 1) line := by
  -- Two quotes at a time: a pair gives the first token, and all other ordinals move by two.
  induction line using pairs_induction '"' with
  | unmarked line free =>
      rw [quotedTokens_of_not_mem line free, List.count_eq_zero_of_not_mem free]
      rfl
  | single front rest free freeRest =>
      have one : (front ++ '"' :: rest).count '"' = 1 := by
        simp [List.count_eq_zero_of_not_mem free, List.count_eq_zero_of_not_mem freeRest]
      rw [quotedTokens_append_of_not_mem front _ free, quotedTokens_open rest freeRest, one]
      rfl
  | pair front token rest free freeToken ih =>
      have inline : IsInline token := ⟨freeToken, fun member => oneLine (by simp [member])⟩
      have oneLineRest : '\n' ∉ rest := fun member => oneLine (by simp [member])
      have two : (front ++ '"' :: (token ++ '"' :: rest)).count '"' / 2 =
          rest.count '"' / 2 + 1 := by
        simp only [List.count_append, List.count_cons_self, List.count_eq_zero_of_not_mem free,
          List.count_eq_zero_of_not_mem freeToken]
        omega
      rw [two, List.range_succ_eq_map, List.map_cons, List.map_map,
        ← quoted_append, quotedTokens_gap_quoted front token rest free inline, ih oneLineRest,
        quoted_append]
      congr 1
      · rw [between_succ_append '"' 0 front _ free, between_zero_append '"' token rest freeToken]
      · apply List.map_congr_left
        intro index _
        have later : 2 * (index + 1) + 1 = (2 * index + 1) + 1 + 1 := by omega
        rw [Function.comp_apply, Nat.succ_eq_add_one, later, between_succ_append '"' _ front _ free,
          between_succ_append '"' _ token rest freeToken]

theorem getElem?_quotedTokens (line : Text) (index : Nat) (oneLine : '\n' ∉ line) :
    (quotedTokens line)[index]? =
      if 2 * index + 2 ≤ line.count '"' then some (between '"' (2 * index + 1) line) else none := by
  rw [quotedTokens_eq_between line oneLine, List.getElem?_map]
  by_cases closed : 2 * index + 2 ≤ line.count '"'
  · have bound : index < line.count '"' / 2 := by omega
    rw [if_pos closed, List.getElem?_range bound, Option.map_some]
  · have bound : (List.range (line.count '"' / 2)).length ≤ index := by
      rw [List.length_range]
      omega
    rw [if_neg closed, List.getElem?_eq_none bound, Option.map_none]

/-! ## Texts behind a line -/

theorem quotedTokens_of_not_mem_tail (text : Text) (free : '"' ∉ text.tail) :
    quotedTokens text = [] := by
  cases text with
  | nil => exact quotedTokens_nil
  | cons c rest =>
      by_cases isQuote : c = '"'
      · rw [isQuote, quotedTokens_open rest free]
      · rw [quotedTokens_cons_of_ne c rest isQuote, quotedTokens_of_not_mem rest free]

/-- The scan of a line leaves open at most one quote, and goes on from there. -/
theorem quotedTokens_append (line : Text) (oneLine : '\n' ∉ line) :
    ∃ pending : Text, '"' ∉ pending.tail ∧ ∀ rest,
      quotedTokens (line ++ rest) = quotedTokens line ++ quotedTokens (pending ++ rest) := by
  induction line using pairs_induction '"' with
  | unmarked line free =>
      refine ⟨[], by simp, fun rest => ?_⟩
      rw [quotedTokens_append_of_not_mem line rest free, quotedTokens_of_not_mem line free]
      rfl
  | single front tail free freeTail =>
      refine ⟨'"' :: tail, freeTail, fun rest => ?_⟩
      rw [List.append_assoc, quotedTokens_append_of_not_mem front _ free,
        quotedTokens_append_of_not_mem front _ free, quotedTokens_open tail freeTail]
      rfl
  | pair front token tail free freeToken ih =>
      have inline : IsInline token := ⟨freeToken, fun member => oneLine (by simp [member])⟩
      obtain ⟨pending, freePending, goesOn⟩ := ih fun member => oneLine (by simp [member])
      refine ⟨pending, freePending, fun rest => ?_⟩
      rw [← quoted_append, quotedTokens_gap_quoted front token tail free inline, List.append_assoc,
        List.append_assoc, quotedTokens_gap_quoted front token _ free inline, goesOn,
        List.cons_append]

theorem quotedTokens_prefix_append (line more : Text) (oneLine : '\n' ∉ line) :
    quotedTokens line <+: quotedTokens (line ++ more) := by
  obtain ⟨pending, -, goesOn⟩ := quotedTokens_append line oneLine
  exact ⟨quotedTokens (pending ++ more), (goesOn more).symm⟩

theorem quotedTokens_padded (left line right : Text) (oneLine : '\n' ∉ line)
    (leftFree : '"' ∉ left) (rightFree : '"' ∉ right) :
    quotedTokens (left ++ line ++ right) = quotedTokens line := by
  obtain ⟨pending, freePending, goesOn⟩ := quotedTokens_append line oneLine
  -- An open quote stays open, for there is no other one in what follows.
  have nothing : quotedTokens (pending ++ right) = [] := by
    apply quotedTokens_of_not_mem_tail
    cases pending with
    | nil => exact fun member => rightFree (List.mem_of_mem_tail member)
    | cons c gap => simpa using ⟨freePending, rightFree⟩
  rw [List.append_assoc, quotedTokens_append_of_not_mem left _ leftFree, goesOn, nothing,
    List.append_nil]

end DocScan.Text
