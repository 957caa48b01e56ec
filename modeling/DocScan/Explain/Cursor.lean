import DocScan.Explain.Document

/-!
# Reading rows one at a time

A cursor stands between two option lines of a document. It gives one row at a time and skips the
lines that carry none; once it is at the end it stays there.
-/

namespace DocScan.Explain

structure Cursor where
  lines : List Text
deriving DecidableEq, Repr

namespace Cursor

def ofContent (content : Option Text) : Cursor := { lines := optionLines content }

def remaining (cursor : Cursor) : List OptionRow := cursor.lines.filterMap rowOf?

def nextAmong : List Text → Option OptionRow × List Text
  | [] => (none, [])
  | line :: rest =>
    match rowOf? line with
    | some row => (some row, rest)
    | none => nextAmong rest

/-- The next row, or nothing at the end, and the cursor behind it. -/
def next (cursor : Cursor) : Option OptionRow × Cursor :=
  let (row, lines) := nextAmong cursor.lines
  (row, { lines })

/-- As many rows as asked for; past the end there is nothing in their place. -/
def take : Nat → Cursor → List (Option OptionRow) × Cursor
  | 0, cursor => ([], cursor)
  | count + 1, cursor =>
    let (row, cursor) := cursor.next
    let (rows, cursor) := take count cursor
    (row :: rows, cursor)

/-- One chunk of rows for each count, and the cursor behind the last one. -/
def takeEach : List Nat → Cursor → List (List (Option OptionRow)) × Cursor
  | [], cursor => ([], cursor)
  | count :: counts, cursor =>
    let (chunk, cursor) := cursor.take count
    let (chunks, cursor) := takeEach counts cursor
    (chunk :: chunks, cursor)

theorem nextAmong_eq (lines : List Text) :
    (nextAmong lines).1 = (lines.filterMap rowOf?).head? ∧
      (nextAmong lines).2.filterMap rowOf? = (lines.filterMap rowOf?).tail := by
  induction lines with
  | nil => simp [nextAmong]
  | cons line rest ih => cases found : rowOf? line <;> simp [nextAmong, found, ih]

theorem remaining_next (cursor : Cursor) :
    cursor.next.1 = cursor.remaining.head? ∧
      cursor.next.2.remaining = cursor.remaining.tail := nextAmong_eq cursor.lines

end Cursor

end DocScan.Explain
