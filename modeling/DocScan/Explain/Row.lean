import DocScan.Json.Writer

/-!
# Option rows

One option of an endpoint: its name, and its value and description where the line gives them. An
absent field is not the empty text.
-/

namespace DocScan.Explain

structure OptionRow where
  name : Text
  value : Option Text := none
  description : Option Text := none
deriving DecidableEq, Repr

namespace OptionRow

def nameField : Text := "name".toList

def valueField : Text := "value".toList

def descriptionField : Text := "description".toList

def fieldNames : List Text := [nameField, valueField, descriptionField]

def fields (row : OptionRow) : List (Option Text) := [some row.name, row.value, row.description]

def fieldJson : Option Text → Json.Value
  | none => .null
  | some text => .text text

def toJson (row : OptionRow) : Json.Value :=
  .object
    [(nameField, .text row.name), (valueField, fieldJson row.value),
     (descriptionField, fieldJson row.description)]

theorem fieldJson_injective (left right : Option Text) (same : fieldJson left = fieldJson right) :
    left = right := by
  cases left <;> cases right <;> simp_all [fieldJson]

theorem toJson_injective (left right : OptionRow) (same : left.toJson = right.toJson) :
    left = right := by
  obtain ⟨name, value, description⟩ := left
  simp only [toJson, Json.Value.object.injEq, List.cons.injEq, Prod.mk.injEq, true_and,
    Json.Value.text.injEq, and_true] at same
  obtain ⟨rfl, sameValue, sameDescription⟩ := same
  rw [fieldJson_injective _ _ sameValue, fieldJson_injective _ _ sameDescription]

end OptionRow

/-! ## Rows as a document -/

/-- The rows as an indented JSON array with a final line feed. -/
def rowsJson (rows : List OptionRow) : Text :=
  (Json.Value.array (rows.map OptionRow.toJson)).write Json.indentedStyle ++ ['\n']

end DocScan.Explain
