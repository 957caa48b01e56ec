import DocScan.Command.Run
import DocScan.Proofs.Json.Characters
import DocScan.Proofs.Json.Documents

/-!
# Options as JSON

A listing in JSON loses nothing: it is ASCII, and a reader of it has every row that was found, in
order, with each field under its name and null for one that is absent.
-/

namespace DocScan.Explain

/-! ## Rows -/

theorem OptionRow.fieldJson_eq (field : Option Text) :
    fieldJson field = field.elim .null .text := by
  cases field <;> rfl

theorem OptionRow.exact_fieldJson (field : Option Text) : (fieldJson field).Exact := by
  cases field with
  | none => exact Json.Value.exact_null
  | some text => exact Json.Value.exact_text text

theorem OptionRow.distinct_fieldJson (field : Option Text) : (fieldJson field).Distinct := by
  cases field <;> exact trivial

theorem OptionRow.exact_toJson (row : OptionRow) : row.toJson.Exact :=
  ⟨trivial, exact_fieldJson row.value, exact_fieldJson row.description, trivial⟩

theorem OptionRow.distinct_toJson (row : OptionRow) : row.toJson.Distinct := by
  have names : fieldNames.Nodup := by decide
  exact ⟨names, trivial, distinct_fieldJson row.value, distinct_fieldJson row.description, trivial⟩

/-! ## Documents -/

theorem read_rowsJson (rows : List OptionRow) :
    Json.read (rowsJson rows) = .ok (.array (rows.map OptionRow.toJson)) := by
  have distinct : (Json.Value.array (rows.map OptionRow.toJson)).Distinct :=
    Json.itemsDistinct_iff.mpr (List.forall_mem_map.mpr fun row _ => row.distinct_toJson)
  have exact : (Json.Value.array (rows.map OptionRow.toJson)).Exact :=
    Json.itemsExact_iff.mpr (List.forall_mem_map.mpr fun row _ => row.exact_toJson)
  exact Json.read_write_of_exact (Json.readable_indentedStyle rfl) distinct exact rfl

theorem rowsJson_injective : Function.Injective rowsJson := by
  intro rows others same
  have read := (read_rowsJson rows).symm.trans ((congrArg Json.read same).trans
    (read_rowsJson others))
  have listed := Json.Value.array.inj (Except.ok.inj read)
  exact List.map_injective_iff.mpr OptionRow.toJson_injective listed

/-- The text is ASCII and, as JSON, the array of the rows: of each its name, its value and its
description, where nothing but an absent field is null. -/
def IsListing (text : Text) (rows : List OptionRow) : Prop :=
  (∀ c ∈ text, c.toNat < 0x80) ∧
    Json.read text = .ok (.array (rows.map fun row => .object
      [("name".toList, .text row.name), ("value".toList, row.value.elim .null .text),
       ("description".toList, row.description.elim .null .text)]))

theorem isListing_rowsJson (rows : List OptionRow) : IsListing (rowsJson rows) rows := by
  constructor
  · have kept : ∀ c ∈ rowsJson rows, Json.IsGraphic c ∨ c = '\n' :=
      List.forall_mem_append.mpr
        ⟨Json.keeps_indentedStyle.forall_mem_writeAt _ 0, by simp⟩
    intro c member
    rcases kept c member with ⟨-, below⟩ | rfl
    · omega
    · decide
  · have shape (row : OptionRow) : row.toJson = .object
        [("name".toList, .text row.name), ("value".toList, row.value.elim .null .text),
         ("description".toList, row.description.elim .null .text)] := by
      rw [OptionRow.toJson, OptionRow.fieldJson_eq, OptionRow.fieldJson_eq]
      rfl
    rw [read_rowsJson, List.map_congr_left fun row _ => shape row]

end DocScan.Explain

namespace DocScan.Command

/-! ## Reports -/

theorem reportOf_json {loaded : Except Settings.Arguments.Refusal Settings} {supply : Input.Supply}
    {words : List Text} {path : Text} {input : Input}
    (asked : Name.options.request words = .ok (.options path .json))
    (readable : Input.readWith loaded supply path = .ok input) :
    ∃ text, (reportOf .options words loaded supply).outputs = [.raw text] ∧
      (reportOf .options words loaded supply).ending = .exit success ∧
      Explain.IsListing text (Explain.rows (some input.text)) ∧
      (Explain.rows (some input.text) = [] → text = "[]\n".toList) := by
  have reported : reportOf .options words loaded supply = listInput input .json := by
    simp only [reportOf, asked, Request.report, readable, list]
  rw [reported]
  refine ⟨_, rfl, rfl, Explain.isListing_rowsJson _, fun empty => ?_⟩
  rw [empty]
  rfl

/-- An option whose name ends in a backslash and whose value is a carriage return, and one with a
control character and a character beyond the basic plane. -/
def rawDocument : Text :=
  "\x7b\n\"e\": \x7b\n\"a\\\": \"type\": \"\r\"\n\"b\": \"\" \"\" \"\" \"\u0001𝄞\"\n".toList

def fromRawDocument : Input.Supply :=
  { standardInput := rawDocument.flatMap String.utf8EncodeChar }

theorem reportOf_json_rawDocument :
    ∃ text, (reportOf .options ["--format".toList, "json".toList, "-".toList] (.ok {})
        fromRawDocument).outputs = [.raw text] ∧
      Explain.IsListing text
        [{ name := "a\\".toList, value := some "\r".toList },
         { name := "b".toList, value := some [], description := some "\u0001𝄞".toList }] := by
  have asked : Name.options.request ["--format".toList, "json".toList, "-".toList] =
      .ok (.options "-".toList .json) := by decide
  have readable : Input.readWith (.ok {}) fromRawDocument "-".toList =
      .ok { text := rawDocument, source := "stdin".toList, size := 49 } := by decide +kernel
  have rows : Explain.rows (some rawDocument) =
      [{ name := "a\\".toList, value := some "\r".toList },
       { name := "b".toList, value := some [], description := some "\u0001𝄞".toList }] := by
    decide +kernel
  obtain ⟨text, printed, -, lists, -⟩ := reportOf_json asked readable
  exact ⟨text, printed, rows ▸ lists⟩

end DocScan.Command
