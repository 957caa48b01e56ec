import DocScan.Explain.Document
import DocScan.Proofs.Explain.Layout
import DocScan.Proofs.Text.Lines

/-!
# Rows by counting quotes

What an option line says can be told from its quotes alone: how many there are, and what stands
behind the first, the fifth and the ninth of them.
-/

namespace DocScan.Explain

def positionalRow? (line : Text) : Option OptionRow :=
  let quotes := line.count '"'
  if quotes < 2 then none
  else some
    { name := Text.between '"' 1 line
      value := if 6 ≤ quotes then some (Text.between '"' 5 line) else none
      description := if 10 ≤ quotes then some (Text.between '"' 9 line) else none }

def positionalRows : Option Text → List OptionRow
  | none => []
  | some content => ((content.splitOn '\n').drop 2).filterMap positionalRow?

theorem rowOf?_eq_positionalRow? (line : Text) (oneLine : '\n' ∉ line) :
    rowOf? line = positionalRow? line := by
  rw [rowOf?_eq_map, Text.getElem?_quotedTokens line 0 oneLine,
    Text.getElem?_quotedTokens line 2 oneLine, Text.getElem?_quotedTokens line 4 oneLine,
    positionalRow?]
  by_cases named : line.count '"' < 2
  · have unnamed : ¬ 2 * 0 + 2 ≤ line.count '"' := by omega
    rw [if_pos named, if_neg unnamed, Option.map_none]
  · have present : 2 * 0 + 2 ≤ line.count '"' := by omega
    rw [if_neg named, if_pos present, Option.map_some]

theorem rows_eq_filterMap_positionalRow? (content : Text) :
    rows (some content) = ((content.splitOn '\n').drop 2).filterMap positionalRow? := by
  rw [rows_filterMap, ← Text.split_eq_splitOn, ← Text.lines]
  apply List.filterMap_congr
  intro line member
  exact rowOf?_eq_positionalRow? line
    (Text.oneLine_of_mem_lines content line (List.mem_of_mem_drop member))

theorem events_eq_iff (rows : List OptionRow) (count : Nat) :
    events rows = [place.debug ("Parsed ".toList ++ Text.ofNat count ++
      " option row(s) from explain JSON".toList)] ↔ count = rows.length := by
  simp only [events, Log.Place.debug, List.cons.injEq, and_true, Log.Event.mk.injEq, true_and,
    List.append_cancel_right_eq, List.append_cancel_left_eq]
  constructor
  · intro same
    exact (Text.ofNat_injective rows.length count same).symm
  · rintro rfl
    rfl

theorem rows_eq_positionalRows (content : Option Text) :
    rows content = positionalRows content ∧ rows none = [] ∧ rows (some []) = [] ∧
      ∀ count, events (rows content) = [place.debug ("Parsed ".toList ++ Text.ofNat count ++
        " option row(s) from explain JSON".toList)] ↔ count = (positionalRows content).length := by
  have same : rows content = positionalRows content := by
    cases content with
    | none => rfl
    | some content => exact rows_eq_filterMap_positionalRow? content
  refine ⟨same, rfl, rfl, fun count => ?_⟩
  rw [events_eq_iff, same]

end DocScan.Explain
