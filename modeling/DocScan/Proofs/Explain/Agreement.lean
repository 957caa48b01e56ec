import DocScan.Proofs.Component.Reading
import DocScan.Proofs.Explain.NormalForm

/-!
# Option lines as lines of properties

An option line of the generated layout is also the line of a property, so there are two ways to its
description: by the position of the token, and by the mark in front of it. They agree, for the mark
cannot begin at a quote of a name or of a value, and a description without quotes ends at the last
quote of its line.
-/

namespace DocScan.Explain
open Text (OneLine quoted quoted_append)
open Component (descriptionMark descriptionMark_eq findingOn Names)

/-- A generated line with blanks in front of it. -/
structure OptionLine where
  indent : Text.Padding
  row : OptionRow
  writable : row.Writable

namespace OptionLine

def text (line : OptionLine) : Text := line.indent.val ++ line.row.line

theorem lineFeed_not_mem_text (line : OptionLine) : '\n' ∉ line.text := by
  have generated := lineFeed_not_mem_generated line.row line.writable
  simp [text, line.indent.property.2, generated]

theorem rowOf?_text (line : OptionLine) : rowOf? line.text = some line.row := by
  have free := Text.quote_not_mem_padding line.indent
  rw [← rowOf?_generated line.row line.writable]
  exact rowOf?_congr _ _ (Text.quotedTokens_append_of_not_mem _ _ free)

end OptionLine

/-! ## The description mark on an option line -/

theorem valueLabel_append (rest : Text) :
    ": \x7b".toList ++ (" \"value\": ".toList ++ rest) =
      ": \x7b ".toList ++ (quoted "value".toList ++ (": ".toList ++ rest)) := rfl

theorem descriptionLabel_append (text rest : Text) :
    ", \"description\": ".toList ++ (quoted text ++ rest) =
      ", ".toList ++ (descriptionMark ++ (text ++ '"' :: rest)) := by
  rw [quoted_append]
  rfl

/-- Up to the end of its value there is no description mark on a line. -/
theorem after_valued (name value rest : Text) (nameFree : '"' ∉ name) (valueFree : '"' ∉ value)
    (notMarkEnd : ¬ Component.markEnd <+: rest) (noWord : rest.head? ≠ some 'd') :
    Text.after descriptionMark (quoted name ++ (": \x7b".toList ++ (" \"value\": ".toList ++
      (quoted value ++ rest)))) = Text.after descriptionMark rest := by
  rw [valueLabel_append, Component.after_name _ _ nameFree,
    Component.after_labelled _ _ _ (by decide) valueFree (by decide) notMarkEnd noWord]

theorem after_line (row : OptionRow) (writable : row.Writable) :
    Text.after descriptionMark row.line =
      row.description.map fun text => text ++ '"' :: " \x7d,".toList := by
  obtain ⟨name, value, description⟩ := row
  have nameFree : '"' ∉ name := writable.name.1
  cases value with
  | none =>
      have undescribed : description = none := writable.valueFirst rfl
      have endFree : '"' ∉ "\x7d,".toList := by decide
      have closed : ": \x7b".toList ++ " \x7d,".toList = ": \x7b ".toList ++ "\x7d,".toList := rfl
      rw [undescribed, OptionRow.line, List.append_nil, List.append_nil, List.append_assoc, closed,
        Component.after_name _ _ nameFree, descriptionMark_eq,
        Text.after_of_not_mem '"' _ _ endFree, Option.map_none]
  | some value =>
      have valueFree : '"' ∉ value := (writable.value value rfl).1
      cases description with
      | none =>
          have endFree : '"' ∉ " \x7d,".toList := by decide
          simp only [OptionRow.line, List.append_assoc, List.nil_append]
          rw [after_valued name value _ nameFree valueFree (by decide) (by decide),
            descriptionMark_eq, Text.after_of_not_mem '"' _ _ endFree, Option.map_none]
      | some text =>
          have commaFree : '"' ∉ ", ".toList := by decide
          simp only [OptionRow.line, List.append_assoc]
          rw [descriptionLabel_append, after_valued name value _ nameFree valueFree
            (Component.not_markEnd_comma _) (by simp), Component.after_gap _ _ commaFree,
            Text.after_append, Option.map_some]

theorem description?_findingOn_line (row : OptionRow) (writable : row.Writable)
    (unwrapped : ∀ text ∈ row.description, ∀ inner, ¬ Text.Wraps '\'' inner text) :
    (findingOn row.line).description? = row.description := by
  have found := after_line row writable
  cases described : row.description with
  | none =>
      rw [described, Option.map_none] at found
      rw [findingOn, found]
      rfl
  | some text =>
      have endFree : '"' ∉ " \x7d,".toList := by decide
      have free : '"' ∉ text := (writable.description text described).1
      rw [described, Option.map_some] at found
      simp only [findingOn, found, Text.beforeLast_append '"' text _ endFree,
        Text.unwrap_of_not_mem text free (unwrapped text described)]
      rfl

/-! ## Option lines among the lines of a document -/

theorem trim_line (row : OptionRow) : Text.trim row.line = row.line := by
  have starts : Text.trimLeft row.line = row.line := by
    rw [OptionRow.line, List.append_assoc, List.append_assoc, List.append_assoc, quoted_append,
      Text.trimLeft_cons]
    rfl
  have ends (front : Text) :
      Text.trimRight (front ++ " \x7d,".toList) = front ++ " \x7d,".toList := by
    have comma : front ++ " \x7d,".toList = (front ++ " \x7d".toList) ++ ',' :: [] := by
      rw [List.append_assoc]
      rfl
    rw [comma, Text.trimRight_append_cons _ [] ',' (by decide)]
    rfl
  rw [Text.trim, starts, OptionRow.line, ends]

theorem trim_text (line : OptionLine) : Text.trim line.text = line.row.line := by
  have padded := Text.trim_padded line.indent ⟨[], Text.isPadding_nil⟩ line.row.line
  rw [List.append_nil] at padded
  rw [OptionLine.text, padded, trim_line]

theorem names_text_iff (name : Text) (line : OptionLine) (free : '"' ∉ name) :
    Names name line.text ↔ name = line.row.name := by
  rw [Names, trim_text, OptionRow.line, List.append_assoc, List.append_assoc, List.append_assoc]
  exact Component.quoted_colon_prefix_iff name line.row.name _ free line.writable.name.1

theorem lineFeed_not_mem_texts (options : List OptionLine) :
    ∀ line ∈ options.map OptionLine.text, '\n' ∉ line := by
  intro line member
  obtain ⟨option, -, rfl⟩ := List.mem_map.mp member
  exact option.lineFeed_not_mem_text

theorem find_document (first second : OneLine) (options : List OptionLine) (option : OptionLine)
    (member : option ∈ options)
    (distinct : (options.map fun option => option.row.name).Nodup)
    (firstStranger : ¬ Names option.row.name first.val)
    (secondStranger : ¬ Names option.row.name second.val) :
    Component.find (some (document first second (options.map OptionLine.text))) option.row.name =
      findingOn option.row.line := by
  have free : '"' ∉ option.row.name := option.writable.name.1
  rw [Component.find, lines_document first second _ (lineFeed_not_mem_texts options),
    ← trim_text option]
  apply Component.findAmong_eq
  · -- No header names the option, and no other option has its name.
    intro line inLines named
    rw [Component.isPrefixOf_trim_iff] at named
    rcases List.mem_cons.mp inLines with rfl | inLines
    · exact absurd named firstStranger
    · rcases List.mem_cons.mp inLines with rfl | inLines
      · exact absurd named secondStranger
      · obtain ⟨other, inOptions, rfl⟩ := List.mem_map.mp inLines
        have sameName := (names_text_iff _ other free).mp named
        rw [List.inj_on_of_nodup_map distinct member inOptions sameName]
  · refine ⟨option.text, ?_, ?_⟩
    · exact List.mem_cons_of_mem _ (List.mem_cons_of_mem _ (List.mem_map_of_mem member))
    · exact (Component.isPrefixOf_trim_iff _ _).mpr ((names_text_iff _ option free).mpr rfl)

theorem description?_rows (first second : OneLine) (options : List OptionLine)
    (distinct : (options.map fun option => option.row.name).Nodup)
    (strangers : ∀ option ∈ options,
      ¬ Names option.row.name first.val ∧ ¬ Names option.row.name second.val)
    (unwrapped : ∀ option ∈ options, ∀ text ∈ option.row.description, ∀ inner,
      ¬ Text.Wraps '\'' inner text) :
    rows (some (document first second (options.map OptionLine.text))) =
        options.map OptionLine.row ∧
      ∀ row ∈ rows (some (document first second (options.map OptionLine.text))),
        Component.description? (some (document first second (options.map OptionLine.text)))
          row.name = row.description := by
  have positional : rows (some (document first second (options.map OptionLine.text))) =
      options.map OptionLine.row := by
    rw [rows_document first second _ (lineFeed_not_mem_texts options), List.filterMap_map,
      ← List.filterMap_eq_map]
    exact List.filterMap_congr fun option _ => option.rowOf?_text
  refine ⟨positional, fun row member => ?_⟩
  rw [positional] at member
  obtain ⟨option, inOptions, rfl⟩ := List.mem_map.mp member
  have headers := strangers option inOptions
  rw [Component.description?, find_document first second options option inOptions distinct
    headers.1 headers.2]
  exact description?_findingOn_line option.row option.writable (unwrapped option inOptions)

/-- The words of the layout as names and as values, an empty name, and a description that ends in
one single quote. -/
def sampleOptions : List OptionLine :=
  [{ indent := ⟨"\t".toList, List.all_eq_true.mp (by decide), by decide⟩
     row :=
       { name := "description".toList, value := some "description".toList,
         description := some " '".toList }
     writable := by decide },
   { indent := ⟨[], Text.isPadding_nil⟩
     row := { name := "value".toList, value := some [] }
     writable := by decide },
   { indent := ⟨"  ".toList, List.all_eq_true.mp (by decide), by decide⟩
     row := { name := [] }
     writable := by decide }]

def openingLine : OneLine := ⟨['\x7b'], by decide⟩

def endpointLine : OneLine := ⟨"\"endpoint\": \x7b".toList, by decide⟩

def sampleDocument : Text := document openingLine endpointLine (sampleOptions.map OptionLine.text)

theorem description?_rows_sample :
    (sampleOptions.map fun option => option.row.name).Nodup ∧
      (∀ option ∈ sampleOptions,
        ¬ Names option.row.name openingLine.val ∧ ¬ Names option.row.name endpointLine.val) ∧
      (∀ option ∈ sampleOptions, ∀ text ∈ option.row.description, ∀ inner,
        ¬ Text.Wraps '\'' inner text) ∧
      sampleOptions[0].row ∈ rows (some sampleDocument) ∧
      Component.description? (some sampleDocument) "description".toList = some " '".toList := by
  have distinct : (sampleOptions.map fun option => option.row.name).Nodup := by decide
  have strangers : ∀ option ∈ sampleOptions,
      ¬ Names option.row.name openingLine.val ∧ ¬ Names option.row.name endpointLine.val := by
    decide +kernel
  have unwrapped : ∀ option ∈ sampleOptions, ∀ text ∈ option.row.description, ∀ inner,
      ¬ Text.Wraps '\'' inner text := by
    intro option member text described inner wraps
    have short : ∀ option ∈ sampleOptions, ∀ text ∈ option.row.description,
        (Text.trim text).length < 2 := by decide +kernel
    have length := short option member text described
    rw [wraps.2, List.length_cons, List.length_append, List.length_singleton] at length
    omega
  obtain ⟨positional, agree⟩ :=
    description?_rows openingLine endpointLine sampleOptions distinct strangers unwrapped
  have member : sampleOptions[0].row ∈ rows (some sampleDocument) := by
    rw [sampleDocument, positional]
    exact List.mem_map_of_mem (List.getElem_mem _)
  have name : sampleOptions[0].row.name = "description".toList := rfl
  have description : sampleOptions[0].row.description = some " '".toList := rfl
  have answer := agree _ member
  rw [name, description] at answer
  exact ⟨distinct, strangers, unwrapped, member, answer⟩

end DocScan.Explain
