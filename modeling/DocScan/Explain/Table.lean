import DocScan.Explain.Row
import DocScan.Markup

/-!
# The table of options

The options of a document as a table of markup cells, one line an option. A dimmed dash stands for
an absent field and nothing else.
-/

namespace DocScan.Explain

structure Column where
  header : Text
  style : Text
  noWrap : Bool
deriving DecidableEq, Repr

structure Table where
  title : Text
  columns : List Column
  rows : List (List Text)
deriving DecidableEq, Repr

def absentCell : Text := "[dim]-[/dim]".toList

def cell : Option Text → Text
  | none => absentCell
  | some text => Markup.escape text

/-- The three columns of the table of options. Only a name is never broken. -/
def optionColumns : List Column :=
  [{ header := "Name".toList, style := "cyan".toList, noWrap := true },
   { header := "Value".toList, style := "green".toList, noWrap := false },
   { header := "Description".toList, style := [], noWrap := false }]

def Table.render (rows : List OptionRow) : Table :=
  { title := "Options (".toList ++ Text.ofNat rows.length ++ [')']
    columns := optionColumns
    rows := rows.map fun row => row.fields.map cell }

theorem Table.rows_render (rows : List OptionRow) :
    (Table.render rows).rows = rows.map fun row => row.fields.map cell := rfl

end DocScan.Explain
