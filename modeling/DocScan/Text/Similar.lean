import DocScan.Text.Basic

/-!
# Similar texts

How much of two texts matches, and which of some candidates come close to a word. Matching takes the
longest piece that the two texts share and then matches what stands before it and what stands behind
it.
-/

namespace DocScan.Text

/-! ## The longest shared piece -/

structure Shared where
  left : Nat
  right : Nat
  size : Nat
deriving DecidableEq, Repr

def commonStart : Text → Text → Nat
  | c :: first, d :: second => if c = d then commonStart first second + 1 else 0
  | _, _ => 0

def sharedPieces (first second : Text) : List Shared :=
  (List.range first.length).flatMap fun left =>
    (List.range second.length).map fun right =>
      { left, right, size := commonStart (first.drop left) (second.drop right) }

/-- The first of the longest pieces, or the one in hand if none is longer. -/
def longestAmong (inHand : Shared) : List Shared → Shared
  | [] => inHand
  | piece :: rest => longestAmong (if inHand.size < piece.size then piece else inHand) rest

/-- The longest piece that two texts share; of several, the one that begins first in the first text,
and then in the second. -/
def longest (first second : Text) : Shared :=
  longestAmong { left := 0, right := 0, size := 0 } (sharedPieces first second)

theorem longestAmong_mem (inHand : Shared) (pieces : List Shared) :
    longestAmong inHand pieces = inHand ∨ longestAmong inHand pieces ∈ pieces := by
  induction pieces generalizing inHand with
  | nil => exact Or.inl rfl
  | cons piece rest ih =>
      simp only [longestAmong]
      rcases ih (if inHand.size < piece.size then piece else inHand) with same | member
      · rw [same]
        split
        · exact Or.inr (by simp)
        · exact Or.inl rfl
      · exact Or.inr (by simp [member])

theorem left_lt_of_longest (first second : Text) (shares : (longest first second).size ≠ 0) :
    (longest first second).left < first.length := by
  have found : longest first second = { left := 0, right := 0, size := 0 } ∨
      longest first second ∈ sharedPieces first second := longestAmong_mem _ _
  rcases found with same | member
  · exact absurd (by rw [same]) shares
  · generalize longest first second = piece at member
    simp only [sharedPieces, List.mem_flatMap, List.mem_range, List.mem_map] at member
    obtain ⟨left, bound, right, -, rfl⟩ := member
    exact bound

/-! ## Matching -/

def matched (first second : Text) : Nat :=
  let piece := longest first second
  if _ : piece.size = 0 then 0
  else
    matched (first.take piece.left) (second.take piece.right) + piece.size +
      matched (first.drop (piece.left + piece.size)) (second.drop (piece.right + piece.size))
termination_by first.length
decreasing_by
  · have shares : (longest first second).size ≠ 0 := ‹_›
    have bound := left_lt_of_longest first second shares
    simp only [List.length_take]
    omega
  · have shares : (longest first second).size ≠ 0 := ‹_›
    have bound := left_lt_of_longest first second shares
    simp only [List.length_drop]
    omega

/-! ## Close candidates -/

/-- A candidate with the number of its characters that match and the number of all characters. -/
structure Candidate where
  text : Text
  matching : Nat
  total : Nat
deriving DecidableEq, Repr

namespace Candidate

def ofWord (word text : Text) : Candidate :=
  { text, matching := matched text word, total := text.length + word.length }

/-- Three fifths of all characters match. -/
def isClose (candidate : Candidate) : Bool := 3 * candidate.total ≤ 10 * candidate.matching

/-- A candidate comes before another one: a larger part of it matches, or, if the parts are equal,
its text is not smaller. -/
def precedes (first second : Candidate) : Bool :=
  let firstPart := first.matching * second.total
  let secondPart := second.matching * first.total
  secondPart < firstPart || (firstPart == secondPart && !decide (first.text < second.text))

end Candidate

def maxSuggestions : Nat := 3

def closest (word : Text) (candidates : List Text) : List Text :=
  let close := (candidates.map (Candidate.ofWord word)).filter Candidate.isClose
  ((close.mergeSort Candidate.precedes).take maxSuggestions).map Candidate.text

theorem closest_subset (word : Text) (candidates : List Text) (text : Text)
    (suggested : text ∈ closest word candidates) : text ∈ candidates := by
  simp only [closest, List.mem_map] at suggested
  obtain ⟨candidate, member, rfl⟩ := suggested
  have sorted := List.mem_mergeSort.mp (List.mem_of_mem_take member)
  obtain ⟨source, sourceMember, rfl⟩ := List.mem_map.mp (List.mem_filter.mp sorted).1
  exact sourceMember

def sorted (texts : List Text) : List Text :=
  texts.mergeSort fun first second => !decide (second < first)

end DocScan.Text
