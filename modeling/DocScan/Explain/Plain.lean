import DocScan.Explain.Table

/-!
# Tables in plain text

A table without styles: its title, and then the headers and the rows in columns as wide as their
widest cell.
-/

namespace DocScan.Explain

def padRight (width : Nat) (text : Text) : Text := text ++ List.replicate (width - text.length) ' '

namespace Table

def plainRows (table : Table) : List (List Text) :=
  table.columns.map Column.header :: table.rows.map (·.map Markup.plain)

def columnWidth (rows : List (List Text)) (column : Nat) : Nat :=
  (rows.map fun row => ((row[column]?).getD []).length).foldl max 0

def plainRow (widths : List Nat) (row : List Text) : Text :=
  Text.join [' ', ' '] (List.zipWith padRight widths row)

def plain (table : Table) : Text :=
  let rows := table.plainRows
  let widths := (List.range table.columns.length).map (columnWidth rows)
  Text.join ['\n'] (table.title :: rows.map (plainRow widths))

end Table

end DocScan.Explain
