import DocScan.Component
import DocScan.Proofs.Text.Lines
import DocScan.Proofs.Text.Marks
import DocScan.Proofs.Text.Tokens
import DocScan.Proofs.Text.Trimming
import Mathlib.Data.List.Nodup

/-!
# Reading back a laid-out component document

The line of a property has its fields in front of the description, which is the last thing in
quotes on it. The description mark begins with a quote, so an earlier occurrence would have to begin
at a quote of the name or of a field, and behind each of these something else is written.
-/

namespace DocScan.Component
open Text (IsInline Inline OneLine quoted descriptionKey quoted_append)

/-! ## Lines of properties -/

structure Field where
  key : Inline
  value : Inline
  notDescription : key.val ≠ "description".toList

def Field.text (field : Field) : Text :=
  quoted field.key.val ++ ": ".toList ++ quoted field.value.val ++ ", ".toList

/-- A property with the text around it on its line. The description may hold quotes. -/
structure Entry where
  indent : OneLine
  name : Inline
  fields : List Field
  description : Option OneLine
  behind : Inline
  indentBlank : ∀ c ∈ indent.val, Text.isBlank c = true

namespace Entry

def descriptionPart (entry : Entry) : Text :=
  match entry.description with
  | none => []
  | some text => "\"description\": \"".toList ++ text.val ++ "\"".toList

/-- What stands between the braces, with some text behind it. -/
def content (entry : Entry) (behind : Text) : Text :=
  entry.fields.flatMap Field.text ++ entry.descriptionPart ++ behind

def line (entry : Entry) : Text :=
  entry.indent.val ++ quoted entry.name.val ++ ": \x7b ".toList ++ entry.content entry.behind.val

end Entry

/-! ## Looking for the description mark -/

def markEnd : Text := ": \"".toList

theorem descriptionMark_eq : descriptionMark = '"' :: ("description".toList ++ '"' :: markEnd) := by
  decide

/-- A text in quotes is passed over unless it is the word of the mark with the rest of the mark
behind it. The closing quote begins no mark either if no word follows it. -/
theorem after_quoted (token rest : Text) (free : '"' ∉ token)
    (other : ¬ (token = "description".toList ∧ markEnd <+: rest))
    (noWord : rest.head? ≠ some 'd') :
    Text.after descriptionMark (quoted token ++ rest) = Text.after descriptionMark rest := by
  have wordFree : '"' ∉ "description".toList := by decide
  have atOpening : ¬ descriptionMark <+: '"' :: (token ++ '"' :: rest) := by
    rw [descriptionMark_eq, List.cons_prefix_cons,
      Text.append_cons_prefix_iff '"' _ _ _ _ wordFree free]
    exact fun both => other ⟨both.2.1.symm, both.2.2⟩
  have atClosing : ¬ descriptionMark <+: '"' :: rest := by
    rw [descriptionMark_eq, List.cons_prefix_cons]
    rintro ⟨-, tail, split⟩
    exact noWord (by rw [← split]; rfl)
  rw [quoted_append, Text.after_cons_of_not_prefix _ _ _ atOpening, descriptionMark_eq,
    Text.after_append_of_not_mem '"' _ token _ free, ← descriptionMark_eq,
    Text.after_cons_of_not_prefix _ _ _ atClosing]

theorem after_gap (gap rest : Text) (free : '"' ∉ gap) :
    Text.after descriptionMark (gap ++ rest) = Text.after descriptionMark rest := by
  rw [descriptionMark_eq, Text.after_append_of_not_mem '"' _ gap rest free]

/-- A key with its value is passed over if the key is not the word of the mark. A value may be that
word, but then something else than the rest of the mark follows it. -/
theorem after_labelled (key value rest : Text) (keyFree : '"' ∉ key) (valueFree : '"' ∉ value)
    (notDescription : key ≠ "description".toList) (notMarkEnd : ¬ markEnd <+: rest)
    (noWord : rest.head? ≠ some 'd') :
    Text.after descriptionMark (quoted key ++ (": ".toList ++ (quoted value ++ rest))) =
      Text.after descriptionMark rest := by
  have colonFree : '"' ∉ ": ".toList := by decide
  rw [after_quoted key _ keyFree (fun both => notDescription both.1) (by simp),
    after_gap _ _ colonFree, after_quoted value _ valueFree (fun both => notMarkEnd both.2) noWord]

theorem not_markEnd_comma (rest : Text) : ¬ markEnd <+: ", ".toList ++ rest := by
  rintro ⟨tail, split⟩
  cases split

theorem after_field (field : Field) (rest : Text) :
    Text.after descriptionMark (field.text ++ rest) = Text.after descriptionMark rest := by
  have commaFree : '"' ∉ ", ".toList := by decide
  simp only [Field.text, List.append_assoc]
  rw [after_labelled _ _ _ field.key.property.1 field.value.property.1 field.notDescription
    (not_markEnd_comma _) (by simp), after_gap _ _ commaFree]

theorem after_fields (fields : List Field) (rest : Text) :
    Text.after descriptionMark (fields.flatMap Field.text ++ rest) =
      Text.after descriptionMark rest := by
  induction fields with
  | nil => rfl
  | cons field fields ih =>
      rw [List.flatMap_cons, List.append_assoc, after_field, ih]

theorem after_name (name rest : Text) (free : '"' ∉ name) :
    Text.after descriptionMark (quoted name ++ (": \x7b ".toList ++ rest)) =
      Text.after descriptionMark rest := by
  have openFree : '"' ∉ ": \x7b ".toList := by decide
  have notMarkEnd : ¬ (name = "description".toList ∧ markEnd <+: ": \x7b ".toList ++ rest) := by
    rintro ⟨-, tail, split⟩
    cases split
  rw [after_quoted _ _ free notMarkEnd (by simp), after_gap _ _ openFree]

theorem after_content (entry : Entry) (behind : Text) (free : '"' ∉ behind) :
    Text.after descriptionMark
        (quoted entry.name.val ++ (": \x7b ".toList ++ entry.content behind)) =
      entry.description.map fun text => text.val ++ '"' :: behind := by
  rw [after_name _ _ entry.name.property.1, Entry.content, List.append_assoc, after_fields,
    Entry.descriptionPart]
  cases entry.description with
  | none =>
      rw [List.nil_append, descriptionMark_eq, Text.after_of_not_mem '"' _ behind free,
        Option.map_none]
  | some text =>
      rw [List.append_assoc, List.append_assoc]
      exact Text.after_append descriptionMark (text.val ++ '"' :: behind)

/-! ## Trimmed lines -/

theorem trim_line (entry : Entry) :
    Text.trim entry.line = Text.trimRight
      (quoted entry.name.val ++ (": \x7b ".toList ++ entry.content entry.behind.val)) := by
  have solid : Text.isBlank '"' = false := by decide
  rw [Text.trim, Entry.line, List.append_assoc, List.append_assoc,
    Text.trimLeft_append _ _ entry.indentBlank, quoted_append, Text.trimLeft_cons, solid]
  rfl

theorem trim_line_eq_append (entry : Entry) :
    Text.trim entry.line = quoted entry.name.val ++ (": \x7b".toList ++
      Text.trimRight (' ' :: entry.content entry.behind.val)) := by
  have brace : ∀ rest : Text, quoted entry.name.val ++ (": \x7b ".toList ++ rest) =
      (quoted entry.name.val ++ ": ".toList) ++ '{' :: ' ' :: rest := by
    intro rest
    rw [List.append_assoc]
    rfl
  rw [trim_line, brace, Text.trimRight_append_cons _ _ '{' (by decide), List.append_assoc]
  rfl

theorem trim_line_of_described (entry : Entry) (text : OneLine)
    (described : entry.description = some text) :
    Text.trim entry.line = quoted entry.name.val ++
      (": \x7b ".toList ++ entry.content (Text.trimRight entry.behind.val)) := by
  -- Trimming stops at the quote that closes the description.
  have closing : ∀ behind : Text,
      quoted entry.name.val ++ (": \x7b ".toList ++ entry.content behind) =
        (quoted entry.name.val ++ ": \x7b ".toList ++ entry.fields.flatMap Field.text ++
          "\"description\": \"".toList ++ text.val) ++ '"' :: behind := by
    intro behind
    simp [Entry.content, Entry.descriptionPart, described]
  rw [trim_line, closing, Text.trimRight_append_cons _ _ '"' (by decide), ← closing]

theorem nameMark_eq (name : Text) : nameMark name = quoted name ++ [':'] := by
  simp [nameMark, quoted]

theorem quoted_colon_prefix_iff (name other rest : Text) (free : '"' ∉ name)
    (otherFree : '"' ∉ other) : quoted name ++ [':'] <+: quoted other ++ ':' :: rest ↔
      name = other := by
  rw [quoted_append, quoted_append, List.cons_prefix_cons,
    Text.append_cons_prefix_iff '"' _ _ _ _ free otherFree]
  constructor
  · exact fun both => both.2.1
  · intro same
    exact ⟨rfl, same, List.prefix_append [':'] rest⟩

theorem named_iff (name : Inline) (entry : Entry) :
    (nameMark name.val).isPrefixOf (Text.trim entry.line) = true ↔
      name.val = entry.name.val := by
  rw [List.isPrefixOf_iff_prefix, trim_line_eq_append, nameMark_eq]
  exact quoted_colon_prefix_iff name.val entry.name.val _ name.property.1 entry.name.property.1

theorem findingOn_of_undescribed (entry : Entry) (undescribed : entry.description = none) :
    findingOn (Text.trim entry.line) = .undescribed := by
  have whole := after_content entry entry.behind.val entry.behind.property.1
  rw [undescribed, Option.map_none] at whole
  have absent : Text.after descriptionMark (Text.trim entry.line) = none := by
    rw [trim_line]
    exact Text.after_eq_none_of_prefix _ _ _ (Text.trimRight_prefix _) whole
  rw [findingOn, absent]

theorem findingOn_of_described (entry : Entry) (text : OneLine)
    (described : entry.description = some text) :
    findingOn (Text.trim entry.line) = .described (Text.unwrap text.val) := by
  have free : '"' ∉ Text.trimRight entry.behind.val :=
    fun member => entry.behind.property.1 ((Text.trimRight_prefix _).subset member)
  have found := after_content entry (Text.trimRight entry.behind.val) free
  rw [described, Option.map_some, ← trim_line_of_described entry text described] at found
  simp only [findingOn, found, Text.beforeLast_append '"' text.val _ free]

/-! ## Documents -/

inductive Line where
  | property (entry : Entry)
  | other (text : OneLine)

namespace Line

def text : Line → Text
  | .property entry => entry.line
  | .other text => text.val

def entry? : Line → Option Entry
  | .property entry => some entry
  | .other _ => none

end Line

def document (body : List Line) : Text := Text.join ['\n'] (body.map Line.text)

theorem lineFeed_not_mem_line (entry : Entry) : '\n' ∉ entry.line := by
  have name := Text.lineFeed_not_mem_quoted entry.name
  have fields : '\n' ∉ entry.fields.flatMap Field.text := by
    intro member
    obtain ⟨field, -, inside⟩ := List.mem_flatMap.mp member
    have key := Text.lineFeed_not_mem_quoted field.key
    have value := Text.lineFeed_not_mem_quoted field.value
    simp [Field.text, key, value] at inside
  have descriptionPart : '\n' ∉ entry.descriptionPart := by
    unfold Entry.descriptionPart
    cases entry.description with
    | none => simp
    | some text => simp [text.property]
  simp [Entry.line, Entry.content, entry.indent.property, name, fields, descriptionPart,
    entry.behind.property.2]

theorem findAmong_eq (name : Text) (lines : List Text) (finding : Finding)
    (agree : ∀ line ∈ lines, (nameMark name).isPrefixOf (Text.trim line) = true →
      findingOn (Text.trim line) = finding)
    (named : ∃ line ∈ lines, (nameMark name).isPrefixOf (Text.trim line) = true) :
    findAmong name lines = finding := by
  induction lines with
  | nil =>
      obtain ⟨line, member, -⟩ := named
      cases member
  | cons line lines ih =>
      by_cases first : (nameMark name).isPrefixOf (Text.trim line) = true
      · rw [findAmong, if_pos first]
        exact agree line (by simp) first
      · rw [findAmong, if_neg first]
        apply ih
        · exact fun later member => agree later (by simp [member])
        · obtain ⟨other, member, isNamed⟩ := named
          rcases List.mem_cons.mp member with rfl | later
          · exact absurd isNamed first
          · exact ⟨other, later, isNamed⟩

theorem find_document (body : List Line) (entry : Entry) (member : .property entry ∈ body)
    (unique : ∀ other, .property other ∈ body → entry.name.val = other.name.val → entry = other)
    (strangers : ∀ text, .other text ∈ body →
      (nameMark entry.name.val).isPrefixOf (Text.trim text.val) = false) :
    find (some (document body)) entry.name.val = findingOn (Text.trim entry.line) := by
  have oneLine : ∀ line ∈ body.map Line.text, '\n' ∉ line := by
    intro line inLines
    obtain ⟨source, -, rfl⟩ := List.mem_map.mp inLines
    cases source with
    | property entry => exact lineFeed_not_mem_line entry
    | other text => exact text.property
  have nonempty : body.map Line.text ≠ [] := List.ne_nil_of_mem (List.mem_map_of_mem member)
  rw [find, document, Text.lines_join _ nonempty oneLine]
  apply findAmong_eq
  · intro line inLines named
    obtain ⟨source, inBody, rfl⟩ := List.mem_map.mp inLines
    -- Among the lines of properties only the one of this entry begins with its name.
    cases source with
    | property other =>
        have same := unique other inBody ((named_iff entry.name other).mp named)
        rw [same]
        rfl
    | other text =>
        have unnamed := strangers text inBody
        rw [Line.text, unnamed] at named
        cases named
  · exact ⟨entry.line, List.mem_map_of_mem member, (named_iff entry.name entry).mpr rfl⟩

/-! ## Descriptions -/

/-- The description that an entry gives to its property: none, or its text, without one pair of
quotes around it. -/
def Entry.Tells (entry : Entry) (found : Option Text) : Prop :=
  match entry.description with
  | none => found = none
  | some text =>
    (∀ quote inner, Text.Wraps quote inner text.val → found = some inner) ∧
      ((∀ quote inner, ¬ Text.Wraps quote inner text.val) → found = some text.val)

theorem tells_findingOn (entry : Entry) :
    entry.Tells (findingOn (Text.trim entry.line)).description? := by
  unfold Entry.Tells
  cases described : entry.description with
  | none =>
      rw [findingOn_of_undescribed entry described]
      rfl
  | some text =>
      rw [findingOn_of_described entry text described]
      constructor
      · intro quote inner wraps
        rw [Finding.description?, Text.unwrap_of_wraps quote inner _ wraps]
      · intro plain
        rw [Finding.description?, Text.unwrap_of_not_wraps _ plain]

theorem description?_laidOut (entries : List Entry)
    (distinct : (entries.map fun entry => entry.name.val).Nodup)
    (body : List Line) (laidOut : (body.filterMap Line.entry?).Perm entries)
    (strangers : ∀ text, .other text ∈ body → ∀ entry ∈ entries,
      ¬ quoted entry.name.val ++ [':'] <+: Text.trim text.val)
    (entry : Entry) (member : entry ∈ entries) :
    entry.Tells (description? (some (document body)) entry.name.val) ∧
      ∀ other : List Line, other.Perm body →
        description? (some (document other)) entry.name.val =
          description? (some (document body)) entry.name.val := by
  -- The same finding for all orders of the lines: that on the line of the entry.
  have finds (lines : List Line) (order : lines.Perm body) :
      find (some (document lines)) entry.name.val = findingOn (Text.trim entry.line) := by
    have mem_entries (found : Entry) : .property found ∈ lines ↔ found ∈ entries := by
      rw [order.mem_iff, ← laidOut.mem_iff, List.mem_filterMap]
      constructor
      · exact fun inBody => ⟨.property found, inBody, rfl⟩
      · rintro ⟨line, inBody, same⟩
        cases line with
        | property entry =>
            cases same
            exact inBody
        | other text => cases same
    apply find_document
    · exact (mem_entries entry).mpr member
    · intro other inLines sameName
      exact List.inj_on_of_nodup_map distinct member ((mem_entries other).mp inLines) sameName
    · intro text inLines
      have stranger := strangers text (order.mem_iff.mp inLines) entry member
      rwa [← nameMark_eq, ← List.isPrefixOf_iff_prefix, Bool.not_eq_true] at stranger
  constructor
  · rw [description?, finds body (List.Perm.refl body)]
    exact tells_findingOn entry
  · intro other order
    rw [description?, description?, finds other order, finds body (List.Perm.refl body)]

/-- The word of the description mark as a value and as a name, a name that begins another one, and
quotes and the mark itself inside a description. -/
def sampleEntries : List Entry :=
  [{ indent := ⟨"\t ".toList, by decide⟩
     name := ⟨"delay".toList, by decide⟩
     fields :=
       [{ key := ⟨"kind".toList, by decide⟩
          value := descriptionKey
          notDescription := by decide }]
     description := some ⟨"a \\\"b\\\" \"description\": \"c".toList, by decide⟩
     behind := ⟨" \x7d, \r".toList, by decide⟩
     indentBlank := List.all_eq_true.mp (by decide) },
   { indent := ⟨[], by decide⟩
     name := ⟨"delayed".toList, by decide⟩
     fields := []
     description := some ⟨" '\"kept\"'\t".toList, by decide⟩
     behind := .empty
     indentBlank := List.all_eq_true.mp (by decide) },
   { indent := ⟨[], by decide⟩
     name := descriptionKey
     fields := []
     description := none
     behind := ⟨" \x7d".toList, by decide⟩
     indentBlank := List.all_eq_true.mp (by decide) }]

def sampleBody : List Line :=
  .other ⟨"\x7b".toList, by decide⟩ ::
    .other ⟨"\"dela\": \x7b \"description\": \"x\" \x7d".toList, by decide⟩ ::
    sampleEntries.map .property

theorem description?_laidOut_sample :
    (sampleEntries.map fun entry => entry.name.val).Nodup ∧
      (sampleBody.filterMap Line.entry?).Perm sampleEntries ∧
      (∀ text, .other text ∈ sampleBody → ∀ entry ∈ sampleEntries,
        ¬ quoted entry.name.val ++ [':'] <+: Text.trim text.val) ∧
      sampleEntries[1] ∈ sampleEntries ∧
      description? (some (document sampleBody)) "delayed".toList = some "\"kept\"".toList := by
  have distinct : (sampleEntries.map fun entry => entry.name.val).Nodup := by decide
  have laidOut : (sampleBody.filterMap Line.entry?).Perm sampleEntries := List.Perm.refl _
  have strangers : ∀ text, .other text ∈ sampleBody → ∀ entry ∈ sampleEntries,
      ¬ quoted entry.name.val ++ [':'] <+: Text.trim text.val := by
    intro text member
    simp only [sampleBody, List.mem_cons, Line.other.injEq, List.mem_map, reduceCtorEq, and_false,
      exists_false, or_false] at member
    rcases member with rfl | rfl
    · decide
    · decide
  have member : sampleEntries[1] ∈ sampleEntries := List.getElem_mem _
  have answer := (description?_laidOut sampleEntries distinct sampleBody laidOut strangers
    sampleEntries[1] member).1
  exact ⟨distinct, laidOut, strangers, member, answer.1 '\'' _ ⟨.inl rfl, by decide⟩⟩

end DocScan.Component
