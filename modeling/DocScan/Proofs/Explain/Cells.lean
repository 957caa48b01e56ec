import DocScan.Explain.Table
import DocScan.Proofs.Markup.Escaping
import Mathlib.Data.List.Forall2

/-!
# Cells of the table of options

A cell shows the field that it stands for. No part of a text in it is a tag that takes effect, and
what shows is the text; the dash of an absent field is such a tag and so is never the cell of a
text.
-/

namespace DocScan.Explain

/-- The cell shows the field. A single backslash at the end of a text shows twice. -/
def Fills : Option Text → Text → Prop
  | none, cell => cell = absentCell
  | some text, cell =>
    cell ≠ absentCell ∧ Markup.Inert cell ∧
      Markup.plain cell = if Markup.endsInSingleSlash text then text ++ ['\\'] else text

theorem not_inert_absentCell : ¬ Markup.Inert absentCell := by
  intro inert
  have isTag : Markup.IsTag "[dim]".toList :=
    .intro 'd' "im".toList (by decide) (by decide) (by decide)
  have odd := inert [] 0 "[dim]".toList "-[/dim]".toList rfl Markup.unslashed_nil isTag
  cases odd

theorem fills_cell (field : Option Text) : Fills field (cell field) := by
  cases field with
  | none => rfl
  | some text =>
      refine ⟨fun same => ?_, Markup.inert_escape text, Markup.plain_escape text⟩
      have inert := Markup.inert_escape text
      rw [cell] at same
      exact not_inert_absentCell (same ▸ inert)

theorem fills_render (rows : List OptionRow) :
    (Table.render rows).title = "Options (".toList ++ Text.ofNat rows.length ++ [')'] ∧
      List.Forall₂ (fun row cells => List.Forall₂ Fills row.fields cells) rows
        (Table.render rows).rows := by
  refine ⟨rfl, ?_⟩
  rw [Table.rows_render, List.forall₂_map_right_iff, List.forall₂_same]
  intro row _
  rw [List.forall₂_map_right_iff, List.forall₂_same]
  exact fun field _ => fills_cell field

end DocScan.Explain
