import DocScan.Proofs.Text.Lines
import DocScan.Proofs.Text.Tokens
import Mathlib.Data.List.Basic

/-!
# The tokens of a text of several lines

A text is scanned in one go, whatever lines it has, but no token crosses the end of a line: a quote
without a partner on its line is passed over, and behind the line feed the scan is where it would be
at the start of a text. So the quotes of each line pair off by themselves.
-/

namespace DocScan.Text

/-! ## Line by line -/

theorem closing_append_lineFeed (gap rest : Text) (free : '"' ∉ gap) :
    closing (gap ++ '\n' :: rest) = none := by
  induction gap with
  | nil => simp [closing]
  | cons c gap ih =>
      rw [List.mem_cons, not_or] at free
      simp [closing, Ne.symm free.1, ih free.2]

theorem quotedTokens_append_lineFeed_of_not_mem (gap rest : Text) (free : '"' ∉ gap) :
    quotedTokens (gap ++ '\n' :: rest) = quotedTokens rest := by
  rw [quotedTokens_append_of_not_mem gap _ free, quotedTokens_cons_of_ne _ _ (by decide)]

theorem quotedTokens_append_lineFeed (line rest : Text) (oneLine : '\n' ∉ line) :
    quotedTokens (line ++ '\n' :: rest) = quotedTokens line ++ quotedTokens rest := by
  obtain ⟨pending, free, goesOn⟩ := quotedTokens_append line oneLine
  -- An open quote meets the line feed before any other quote, and is given up there.
  have givenUp : quotedTokens (pending ++ '\n' :: rest) = quotedTokens rest := by
    cases pending with
    | nil => exact quotedTokens_append_lineFeed_of_not_mem [] rest free
    | cons c gap =>
        have goneOn := quotedTokens_append_lineFeed_of_not_mem gap rest free
        by_cases isQuote : c = '"'
        · rw [isQuote, List.cons_append,
            quotedTokens_of_unclosed (closing_append_lineFeed gap rest free), goneOn]
        · rw [List.cons_append, quotedTokens_cons_of_ne c _ isQuote, goneOn]
  rw [goesOn, givenUp]

theorem quotedTokens_join (pieces : List Text) (oneLine : ∀ piece ∈ pieces, '\n' ∉ piece) :
    quotedTokens (join ['\n'] pieces) = pieces.flatMap quotedTokens := by
  induction pieces with
  | nil => simp [join]
  | cons piece pieces ih =>
      obtain ⟨here, later⟩ := List.forall_mem_cons.mp oneLine
      cases pieces with
      | nil => simp [join]
      | cons next pieces =>
          rw [join, List.append_assoc, List.singleton_append,
            quotedTokens_append_lineFeed piece _ here, ih later]
          rfl

theorem quotedTokens_lines (text : Text) :
    quotedTokens text = (lines text).flatMap quotedTokens := by
  have joined := quotedTokens_join (lines text) (oneLine_of_mem_lines text)
  rwa [lines, join_split] at joined

/-! ## Pairs of quotes -/

theorem exists_between (mark : Char) (ordinal : Nat) (text : Text)
    (enough : ordinal + 2 ≤ text.count mark) : ∃ front rest,
      text = front ++ mark :: (between mark (ordinal + 1) text ++ mark :: rest) ∧
        front.count mark = ordinal ∧ mark ∉ between mark (ordinal + 1) text := by
  induction ordinal generalizing text with
  | zero =>
      have first : mark ∈ text := List.count_pos_iff.mp (by omega)
      obtain ⟨front, more, rfl, free⟩ := List.eq_append_cons_of_mem first
      have none : front.count mark = 0 := List.count_eq_zero_of_not_mem free
      rw [List.count_append, none, List.count_cons_self] at enough
      have second : mark ∈ more := List.count_pos_iff.mp (by omega)
      obtain ⟨inner, rest, rfl, freeInner⟩ := List.eq_append_cons_of_mem second
      rw [between_succ_append mark 0 front _ free, between_zero_append mark inner rest freeInner]
      exact ⟨front, rest, rfl, none, freeInner⟩
  | succ ordinal ih =>
      have first : mark ∈ text := List.count_pos_iff.mp (by omega)
      obtain ⟨gap, more, rfl, free⟩ := List.eq_append_cons_of_mem first
      have none : gap.count mark = 0 := List.count_eq_zero_of_not_mem free
      rw [List.count_append, none, List.count_cons_self] at enough
      obtain ⟨front, rest, split, counted, freeInner⟩ := ih more (by omega)
      rw [between_succ_append mark (ordinal + 1) gap more free]
      refine ⟨gap ++ mark :: front, rest, ?_, ?_, freeInner⟩
      · rw [List.append_assoc, List.cons_append, ← split]
      · rw [List.count_append, none, List.count_cons_self, counted, Nat.zero_add]

/-- The texts between the first quote of a line and the second, the third and the fourth, and so
on. A last quote without a partner is left over. -/
def pairTexts (line : Text) : List Text :=
  (List.range (line.count '"' / 2)).map fun pair => between '"' (2 * pair + 1) line

theorem exists_of_pairTexts (line : Text) (pair : Nat) (paired : pair < line.count '"' / 2) :
    ∃ front token rest, line = front ++ (quoted token ++ rest) ∧ front.count '"' = 2 * pair ∧
      '"' ∉ token ∧ (pairTexts line)[pair]? = some token := by
  obtain ⟨front, rest, split, counted, free⟩ := exists_between '"' (2 * pair) line (by omega)
  refine ⟨front, _, rest, ?_, counted, free, ?_⟩
  · rw [quoted_append]
    exact split
  · rw [pairTexts, List.getElem?_map, List.getElem?_range paired, Option.map_some]

/-! ## All other characters -/

/-- Characters are changed, but quotes and line feeds stay, and none comes in. -/
structure KeepsMarks (change : Char → Char) : Prop where
  quote : ∀ c, change c = '"' ↔ c = '"'
  lineFeed : ∀ c, change c = '\n' ↔ c = '\n'

section

variable {change : Char → Char} (keeps : KeepsMarks change)
include keeps

theorem closing_map (text : Text) :
    closing (text.map change) =
      (closing text).map fun found => (found.1.map change, found.2.map change) := by
  induction text with
  | nil => rfl
  | cons c rest ih =>
      simp only [List.map_cons, closing, keeps.quote, keeps.lineFeed, ih]
      split
      · rfl
      · split
        · rfl
        · cases closing rest <;> rfl

theorem quotedTokens_map (text : Text) :
    quotedTokens (text.map change) = (quotedTokens text).map (List.map change) := by
  fun_induction quotedTokens text with
  | case1 => simp
  | case2 rest token tail closed ih =>
      have quote : change '"' = '"' := (keeps.quote '"').mpr rfl
      have closedAgain : closing (rest.map change) = some (token.map change, tail.map change) := by
        rw [closing_map keeps, closed, Option.map_some]
      rw [List.map_cons, quote, quotedTokens_of_closed closedAgain, ih, List.map_cons]
  | case3 rest unclosed ih =>
      have quote : change '"' = '"' := (keeps.quote '"').mpr rfl
      have unclosedAgain : closing (rest.map change) = none := by
        rw [closing_map keeps, unclosed, Option.map_none]
      rw [List.map_cons, quote, quotedTokens_of_unclosed unclosedAgain, ih]
  | case4 c rest other ih =>
      have otherAgain : change c ≠ '"' := mt (keeps.quote c).mp other
      rw [List.map_cons, quotedTokens_cons_of_ne _ _ otherAgain, ih]

end

/-- The quotes of each line pair off from its left, and the texts between them are the tokens, line
after line. Which characters these are makes no difference, quotes and line feeds apart. -/
theorem quotedTokens_eq_pairTexts (text : Text) :
    quotedTokens text = (lines text).flatMap pairTexts ∧
      (∀ line ∈ lines text, (pairTexts line).length = line.count '"' / 2 ∧
        ∀ pair < line.count '"' / 2, ∃ front token rest,
          line = front ++ (quoted token ++ rest) ∧ front.count '"' = 2 * pair ∧ '"' ∉ token ∧
            (pairTexts line)[pair]? = some token) ∧
      ∀ change, KeepsMarks change →
        quotedTokens (text.map change) = (quotedTokens text).map (List.map change) := by
  refine ⟨?tokens, ?pairs, ?others⟩
  case tokens =>
    rw [quotedTokens_lines]
    apply List.flatMap_congr
    intro line member
    exact quotedTokens_eq_between line (oneLine_of_mem_lines text line member)
  case pairs =>
    intro line _
    refine ⟨?_, exists_of_pairTexts line⟩
    rw [pairTexts, List.length_map, List.length_range]
  case others =>
    intro change keeps
    exact quotedTokens_map keeps text

/-- A line with an empty pair, a quote behind a backslash and a last quote without a partner. -/
def oddLine : Text := "\"\"\\\"b\u2028\"\r\"c".toList

/-- The line among others. The one in front of it leaves a quote open. -/
def oddText : Text := join ['\n'] ["\"a".toList, oddLine, "\"d\"".toList]

theorem quotedTokens_eq_pairTexts_odd :
    quotedTokens oddText = [[], "b\u2028".toList, "d".toList] ∧
      (oddLine ∈ lines oddText ∧ 1 < oddLine.count '"' / 2 ∧ ∃ front token rest,
        oddLine = front ++ (quoted token ++ rest) ∧ front.count '"' = 2 ∧ '"' ∉ token ∧
          (pairTexts oddLine)[1]? = some token) ∧
      KeepsMarks (fun c => if c = '\u2028' then '\\' else c) ∧
      quotedTokens (oddText.map fun c => if c = '\u2028' then '\\' else c) =
        [[], "b\\".toList, "d".toList] := by
  have keeps : KeepsMarks (fun c => if c = '\u2028' then '\\' else c) := by
    constructor
    all_goals
      intro c
      split
      · simp_all
      · rfl
  have member : oddLine ∈ lines oddText := by decide
  have paired : 1 < oddLine.count '"' / 2 := by decide
  obtain ⟨tokens, pairs, others⟩ := quotedTokens_eq_pairTexts oddText
  have found : quotedTokens oddText = [[], "b\u2028".toList, "d".toList] :=
    tokens.trans (by decide)
  refine ⟨found, ⟨member, paired, (pairs oddLine member).2 1 paired⟩, keeps, ?_⟩
  rw [others _ keeps, found]
  rfl

end DocScan.Text
