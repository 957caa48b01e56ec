import DocScan.Explain.Cursor
import Mathlib.Algebra.Ring.Nat

/-!
# Rows in portions

However the rows of a document are asked for, a cursor gives them in their order, each of them once,
and nothing behind the last one. The invariant is what remains: a cursor stands at a position of the
rows that were there when it was made, and every row it gives moves it by one. Cursors that are used
in turn know nothing of each other.
-/

namespace DocScan.Explain

/-- The chunks hold the rows of a document from the first one on, each as many as are asked for.
Past the last row there is nothing in their place. -/
structure Serves (rows : List OptionRow) (counts : List Nat)
    (chunks : List (List (Option OptionRow))) : Prop where
  length : chunks.length = counts.length
  chunk : ∀ index count, counts[index]? = some count → ∃ chunk, chunks[index]? = some chunk ∧
    chunk.length = count ∧ ∀ item < count, chunk[item]? = some rows[(counts.take index).sum + item]?

/-! ## One cursor -/

namespace Cursor

theorem take_eq (count : Nat) (cursor : Cursor) :
    (cursor.take count).1 = (List.range count).map (fun item => cursor.remaining[item]?) ∧
      (cursor.take count).2.remaining = cursor.remaining.drop count := by
  induction count generalizing cursor with
  | zero => simp [take]
  | succ count ih =>
      obtain ⟨row, behind⟩ := remaining_next cursor
      obtain ⟨rows, rest⟩ := ih cursor.next.2
      constructor
      · rw [List.range_succ_eq_map, List.map_cons, List.map_map]
        simp only [take, row, rows, behind, List.head?_eq_getElem?, List.getElem?_tail,
          Function.comp_def]
      · simp only [take, rest, behind, List.drop_tail]

theorem remaining_takeEach (counts : List Nat) (cursor : Cursor) :
    (takeEach counts cursor).2.remaining = cursor.remaining.drop counts.sum := by
  induction counts generalizing cursor with
  | nil => simp [takeEach]
  | cons count counts ih => simp [takeEach, ih, take_eq]

theorem takeEach_append (front rest : List Nat) (cursor : Cursor) :
    takeEach (front ++ rest) cursor =
      ((takeEach front cursor).1 ++ (takeEach rest (takeEach front cursor).2).1,
        (takeEach rest (takeEach front cursor).2).2) := by
  induction front generalizing cursor with
  | nil => rfl
  | cons count front ih => simp only [List.cons_append, takeEach, ih]

theorem serves_takeEach (counts : List Nat) (cursor : Cursor) :
    Serves cursor.remaining counts (takeEach counts cursor).1 := by
  induction counts generalizing cursor with
  | nil => exact ⟨rfl, fun index count asked => by simp at asked⟩
  | cons first counts ih =>
      obtain ⟨length, later⟩ := ih (cursor.take first).2
      refine ⟨congrArg Nat.succ length, fun index count asked => ?_⟩
      cases index with
      | zero =>
          obtain rfl : first = count := by simpa using asked
          refine ⟨_, rfl, ?_, fun item inside => ?_⟩
          · simp [take_eq]
          · simp [take_eq, inside]
      | succ index =>
          -- What the first chunk takes is in front of all that the others can see.
          obtain ⟨chunk, found, counted, items⟩ := later index count (by simpa using asked)
          refine ⟨chunk, found, counted, fun item inside => ?_⟩
          rw [items item inside, (take_eq first cursor).2, List.getElem?_drop, List.take_succ_cons,
            List.sum_cons, Nat.add_assoc]

theorem remaining_eq_nil_of_next (cursor : Cursor) (ended : cursor.next.1 = none) :
    cursor.next.2.remaining = [] := by
  obtain ⟨row, behind⟩ := remaining_next cursor
  rw [ended] at row
  rw [behind, List.head?_eq_none_iff.mp row.symm, List.tail_nil]

theorem takeEach_of_remaining_eq_nil (counts : List Nat) (cursor : Cursor)
    (ended : cursor.remaining = []) :
    (takeEach counts cursor).1 = counts.map (List.replicate · none) := by
  induction counts generalizing cursor with
  | nil => rfl
  | cons count counts ih =>
      obtain ⟨chunk, behind⟩ := take_eq count cursor
      have still : (cursor.take count).2.remaining = [] := by rw [behind, ended, List.drop_nil]
      simp [takeEach, chunk, ended, ih _ still, List.map_const']

end Cursor

/-! ## Several cursors -/

abbrev Cursors := List Cursor

namespace Cursors

inductive Step where
  | make (content : Option Text)
  | take (number count : Nat)

/-- The chunks that are given, each with the number of its cursor, and the cursors from then on. A
number without a cursor does nothing. -/
def step (cursors : Cursors) : Step → List (Nat × List (Option OptionRow)) × Cursors
  | .make content => ([], cursors ++ [.ofContent content])
  | .take number count =>
    match cursors[number]? with
    | none => ([], cursors)
    | some cursor =>
      let (chunk, cursor) := cursor.take count
      ([(number, chunk)], cursors.set number cursor)

def run (cursors : Cursors) : List Step → List (Nat × List (Option OptionRow)) × Cursors
  | [] => ([], cursors)
  | step :: steps =>
    let (given, cursors) := cursors.step step
    let (more, cursors) := cursors.run steps
    (given ++ more, cursors)

def Step.countFor? (number : Nat) : Step → Option Nat
  | .make _ => none
  | .take asked count => if asked = number then some count else none

/-- The counts that a cursor is asked for, whatever else is asked in between. -/
def countsFor (number : Nat) (steps : List Step) : List Nat :=
  steps.filterMap (Step.countFor? number)

/-- The chunks among others that a cursor has given. -/
def chunksOf (number : Nat) (given : List (Nat × List (Option OptionRow))) :
    List (List (Option OptionRow)) :=
  (given.filter fun chunk => chunk.1 = number).map Prod.snd

variable {cursors : Cursors} {number : Nat} {cursor : Cursor}

theorem step_of_getElem? (there : cursors[number]? = some cursor) (step : Step) :
    let alone := Cursor.takeEach (countsFor number [step]) cursor
    chunksOf number (cursors.step step).1 = alone.1 ∧
      (cursors.step step).2[number]? = some alone.2 := by
  obtain ⟨bound, -⟩ := List.getElem?_eq_some_iff.mp there
  cases step with
  | make content =>
      refine ⟨rfl, ?_⟩
      exact (List.getElem?_append_left bound).trans there
  | take asked count =>
      by_cases same : asked = number
      · subst same
        simp [Cursors.step, there, countsFor, Step.countFor?, chunksOf, Cursor.takeEach,
          List.getElem?_set_self bound]
      · cases found : cursors[asked]? with
        | none => simp [Cursors.step, found, there, countsFor, Step.countFor?, chunksOf, same,
            Cursor.takeEach]
        | some other => simp [Cursors.step, found, there, countsFor, Step.countFor?, chunksOf, same,
            Cursor.takeEach, List.getElem?_set_ne same]

theorem run_of_getElem? (there : cursors[number]? = some cursor) (steps : List Step) :
    let alone := Cursor.takeEach (countsFor number steps) cursor
    chunksOf number (cursors.run steps).1 = alone.1 ∧
      (cursors.run steps).2[number]? = some alone.2 := by
  induction steps generalizing cursors cursor with
  | nil => exact ⟨rfl, there⟩
  | cons step steps ih =>
      obtain ⟨given, stillThere⟩ := step_of_getElem? there step
      obtain ⟨later, last⟩ := ih stillThere
      have split : countsFor number (step :: steps) =
          countsFor number [step] ++ countsFor number steps :=
        List.filterMap_append (l := [step])
      constructor
      · rw [split, Cursor.takeEach_append, ← given, ← later]
        simp [run, chunksOf]
      · rw [split, Cursor.takeEach_append, ← last]
        rfl

end Cursors

/-! ## Documents -/

/-- A cursor for a document gives its rows in their order, whatever the sizes of the chunks, and
leaves those that have not been asked for; once there is no next row there never is one again. This
is so for every cursor among others, whenever it is made and whatever the others are asked for. -/
theorem rows_in_portions (content : Option Text) :
    (∀ counts, let (chunks, behind) := Cursor.takeEach counts (.ofContent content)
      Serves (rows content) counts chunks ∧
        behind.remaining = (rows content).drop counts.sum ∧
        (behind.next.1 = none → ∀ more,
          (Cursor.takeEach more behind.next.2).1 = more.map (List.replicate · none))) ∧
    ∀ (cursors : Cursors) (steps : List Cursors.Step),
      let (given, last) := (cursors.step (.make content)).2.run steps
      let counts := Cursors.countsFor cursors.length steps
      Serves (rows content) counts (Cursors.chunksOf cursors.length given) ∧
        ∃ behind, last[cursors.length]? = some behind ∧
          behind.remaining = (rows content).drop counts.sum := by
  constructor
  · intro counts
    refine ⟨?chunks, ?remaining, ?ended⟩
    case chunks => exact Cursor.serves_takeEach counts (.ofContent content)
    case remaining => exact Cursor.remaining_takeEach counts (.ofContent content)
    case ended =>
      intro ended more
      exact Cursor.takeEach_of_remaining_eq_nil more _ (Cursor.remaining_eq_nil_of_next _ ended)
  · intro cursors steps
    have there : (cursors.step (.make content)).2[cursors.length]? =
        some (Cursor.ofContent content) := List.getElem?_concat_length
    obtain ⟨chunks, last⟩ := Cursors.run_of_getElem? there steps
    refine ⟨?_, _, last, Cursor.remaining_takeEach _ (.ofContent content)⟩
    rw [chunks]
    exact Cursor.serves_takeEach _ (.ofContent content)

/-- Two options with a line between them that carries none. -/
def gappedDocument : Text :=
  Text.join ['\n'] ["\x7b".toList, [], "\"a\"".toList, "\x7d".toList, "\"b\" \"\" \"1\"".toList]

/-- Rows are asked of two cursors for the document in turn, the second of which comes later. -/
def gappedSteps : List Cursors.Step := [.take 0 2, .take 1 1, .make none, .take 0 1, .take 1 2]

theorem rows_in_portions_gapped :
    let found := rows (some gappedDocument)
    let behind := (Cursor.takeEach [1, 0, 3] (.ofContent (some gappedDocument))).2
    found = [{ name := ['a'] }, { name := ['b'], value := some ['1'] }] ∧
      (∃ chunk, (Cursor.takeEach [1, 0, 3] (.ofContent (some gappedDocument))).1[2]? = some chunk ∧
        chunk.length = 3 ∧ ∀ item < 3, chunk[item]? = some found[1 + item]?) ∧
      behind.next.1 = none ∧ (Cursor.takeEach [2] behind.next.2).1 = [[none, none]] ∧
      Serves found [1, 2] (Cursors.chunksOf 1 (Cursors.run
        (Cursors.step [.ofContent (some gappedDocument)] (.make (some gappedDocument))).2
        gappedSteps).1) := by
  intro found behind
  obtain ⟨alone, among⟩ := rows_in_portions (some gappedDocument)
  obtain ⟨serves, -, ended⟩ := alone [1, 0, 3]
  have last : behind.next.1 = none := by decide +kernel
  exact ⟨by decide +kernel, serves.chunk 2 3 rfl, last, ended last [2],
    (among [.ofContent (some gappedDocument)] gappedSteps).1⟩

end DocScan.Explain
