import DocScan.Proofs.Command.Notices
import DocScan.Proofs.Component.Reading
import DocScan.Proofs.Text.Literals

/-!
# Describing a property

A property is described by the text of its description as it is, and be it empty. If a document has
none, a notice in yellow names the property: no name can take effect as a tag in it, and it tells
which name was meant. Only who asks strictly is told so by the exit code as well.
-/

namespace DocScan.Command

open Markup (LiveAt Piece)

/-! ## The notice -/

theorem isTag_yellow : Markup.IsTag "[yellow]".toList :=
  .intro 'y' "ellow".toList (by decide) (by decide) (by decide)

theorem isTag_notYellow : Markup.IsTag "[/yellow]".toList :=
  .intro '/' "yellow".toList (by decide) (by decide) (by decide)

theorem undescribedNotice_eq (field : Text) :
    undescribedNotice field = "[yellow]No description found for ".toList ++
      Markup.escape (Text.literal field) ++ "[/yellow]".toList :=
  styled_append yellow _ _

theorem pieces_undescribedNotice (field : Text) :
    Markup.pieces (undescribedNotice field) =
      .tag 0 "[yellow]".toList ::
        ("No description found for ".toList.map Piece.char ++
          (Markup.pieces (Text.literal field)).map Piece.quoted ++
            [.tag 0 "[/yellow]".toList]) := by
  have unopened : '[' ∉ "No description found for ".toList := by decide +kernel
  have unslashed : '\\' ∉ "No description found for ".toList := by decide +kernel
  have framed := pieces_frame isTag_yellow isTag_notYellow unopened unslashed
    (Input.unslashed_literal [] field) 0
  rw [List.replicate_zero, List.append_nil] at framed
  rw [undescribedNotice_eq, List.append_assoc]
  exact framed

theorem liveTags_undescribedNotice (field : Text) :
    Markup.liveTags (undescribedNotice field) =
      [.tag 0 "[yellow]".toList, .tag 0 "[/yellow]".toList] := by
  rw [Markup.liveTags, pieces_undescribedNotice, filter_isLive_frame]
  rfl

theorem escape_literal_injective :
    Function.Injective fun field => Markup.escape (Text.literal field) := by
  have plain (field : Text) : Markup.plain (Markup.escape (Text.literal field)) =
      Text.literal field := Markup.plain_escape_of_unslashed (Input.unslashed_literal [] field)
  intro field other same
  have shown := congrArg Markup.plain same
  dsimp only at shown
  rw [plain, plain] at shown
  exact Text.literal_injective shown

theorem undescribedNotice_injective : Function.Injective undescribedNotice := by
  intro field other same
  rw [undescribedNotice_eq, undescribedNotice_eq] at same
  exact escape_literal_injective (List.append_cancel_left (List.append_cancel_right same))

/-- Whatever the name of the property is, two tags take effect in the notice, the one that it begins
with and the one that it ends with. Different names have different notices. -/
theorem undescribedNotice_unambiguous :
    (∀ field,
      undescribedNotice field = "[yellow]No description found for ".toList ++
        Markup.escape (Text.literal field) ++ "[/yellow]".toList ∧
      Markup.liveTags (undescribedNotice field) =
        [.tag 0 "[yellow]".toList, .tag 0 "[/yellow]".toList] ∧
      ∀ before body after,
        LiveAt (undescribedNotice field) before body after ↔
          before = [] ∧ body = "[yellow]".toList ∧
              after = "No description found for ".toList ++
                Markup.escape (Text.literal field) ++ "[/yellow]".toList ∨
            before = "[yellow]No description found for ".toList ++
                Markup.escape (Text.literal field) ∧ body = "[/yellow]".toList ∧ after = []) ∧
    Function.Injective undescribedNotice := by
  refine ⟨fun field => ⟨undescribedNotice_eq field, liveTags_undescribedNotice field,
    fun before body after => ?_⟩, undescribedNotice_injective⟩
  have behind : undescribedNotice field = "[yellow]".toList ++ after ↔
      after = "No description found for ".toList ++ Markup.escape (Text.literal field) ++
        "[/yellow]".toList := by
    rw [undescribedNotice_eq, eq_comm (a := after)]
    exact List.append_cancel_left_eq "[yellow]".toList _ after ▸ Iff.rfl
  have front : undescribedNotice field = before ++ "[/yellow]".toList ↔
      before = "[yellow]No description found for ".toList ++
        Markup.escape (Text.literal field) := by
    rw [undescribedNotice_eq, List.append_cancel_right_eq]
    exact eq_comm
  rw [Markup.liveAt_iff (pieces_undescribedNotice field) fun piece => not_isLive_inner]
  constructor
  · rintro (⟨first, rfl, split⟩ | ⟨last, rfl, split⟩)
    · exact .inl ⟨first, rfl, behind.mp split⟩
    · exact .inr ⟨front.mp split, rfl, last⟩
  · rintro (⟨first, rfl, rest⟩ | ⟨rest, rfl, last⟩)
    · exact .inl ⟨first, rfl, behind.mpr rest⟩
    · exact .inr ⟨last, rfl, front.mpr rest⟩

/-! ## The report -/

/-- What describing a property comes to, by what reading its document has come to. -/
inductive Describes (reading : Except Input.Fault Input) (field : Text) (strict : Bool) :
    Report → Prop
  | unreadable (reason : Input.Unreadable) (failed : reading = .error (.unreadable reason)) :
      Describes reading field strict
        { outputs := [.marked
            ("[red]✗ ".toList ++ Markup.escape reason.message ++ "[/red]".toList)]
          events := [(commandPlace .describe).error
            ("Failed to read input: ".toList ++ reason.message)]
          ending := .exit 1 }
  | found (input : Input) (description : Text) (read : reading = .ok input)
      (tells : Component.Reading field (Text.lines input.text) (some description) []) :
      Describes reading field strict
        { outputs := [.verbatim description true], events := input.events, ending := .exit 0 }
  | missing (input : Input) (log : List Log.Event) (read : reading = .ok input)
      (tells : Component.Reading field (Text.lines input.text) none log) :
      Describes reading field strict
        { outputs := [.marked ("[yellow]No description found for ".toList ++
            Markup.escape (Text.literal field) ++ "[/yellow]".toList)]
          events := input.events ++ log
          ending := .exit (if strict then 2 else 0) }
  | stopped (fault : Input.Fault) (failed : reading = .error fault)
      (other : ∀ reason, fault ≠ .unreadable reason) :
      Describes reading field strict { ending := .failed (.input fault) }

variable {reading : Except Input.Fault Input} {field : Text} {strict : Bool}

theorem description?_of_reading {input : Input} {answer : Option Text} {log : List Log.Event}
    (tells : Component.Reading field (Text.lines input.text) answer log) :
    Component.description? (some input.text) field = answer ∧
      (Component.find (some input.text) field).events field = log :=
  (Component.reading_iff_findAmong field _ answer log).mp tells

theorem silent_of_reading {lines : List Text} {description : Text} {log : List Log.Event}
    (tells : Component.Reading field lines (some description) log) : log = [] := by
  cases tells with
  | named _ _ _ _ _ _ _ _ told =>
      cases told with
      | described => rfl

theorem describe_of_found {input : Input} {description : Text} {log : List Log.Event}
    (tells : Component.Reading field (Text.lines input.text) (some description) log) :
    describe (.ok input) field strict =
      { outputs := [.verbatim description true], events := input.events } := by
  obtain ⟨found, told⟩ := description?_of_reading tells
  rw [Component.description?] at found
  rw [describe, describeInput, told, silent_of_reading tells, found, List.append_nil]

theorem describe_of_missing {input : Input} {log : List Log.Event}
    (tells : Component.Reading field (Text.lines input.text) none log) :
    describe (.ok input) field strict =
      { outputs := [.marked (undescribedNotice field)], events := input.events ++ log
        ending := undescribedEnding strict } := by
  obtain ⟨missing, told⟩ := description?_of_reading tells
  rw [Component.description?] at missing
  rw [describe, describeInput, told, missing]

theorem describes_describe (reading : Except Input.Fault Input) (field : Text) (strict : Bool) :
    Describes reading field strict (describe reading field strict) := by
  cases reading with
  | error fault =>
      cases fault with
      | unreadable reason =>
          rw [describe, inputFailed, unreadableNotice_eq]
          exact .unreadable reason rfl
      | _ => exact .stopped _ rfl fun reason same => by cases same
  | ok input =>
      have tells := Component.reading_findAmong field (Text.lines input.text)
      cases answer : (Component.findAmong field (Text.lines input.text)).description? with
      | some description =>
          rw [answer] at tells
          rw [describe_of_found tells]
          rw [silent_of_reading tells] at tells
          exact .found input description rfl tells
      | none =>
          rw [answer] at tells
          rw [describe_of_missing tells, undescribedNotice_eq]
          exact .missing input _ rfl tells

theorem Describes.eq_describe {report : Report}
    (describes : Describes reading field strict report) :
    describe reading field strict = report := by
  cases describes with
  | unreadable reason failed =>
      rw [failed, describe, inputFailed, unreadableNotice_eq]
      rfl
  | found input description read tells =>
      rw [read, describe_of_found tells]
      rfl
  | missing input log read tells =>
      rw [read, describe_of_missing tells, undescribedNotice_eq]
      rfl
  | stopped fault failed other =>
      rw [failed]
      cases fault with
      | unreadable reason => exact absurd rfl (other reason)
      | _ => rfl

theorem Describes.exit_iff {report : Report} (describes : Describes reading field strict report) :
    (report.ending = .exit 2 ↔ strict = true ∧ ∃ input, reading = .ok input ∧
      Component.description? (some input.text) field = none) ∧
    (report.ending = .exit 1 ↔ ∃ reason, reading = .error (.unreadable reason)) ∧
    (report.ending = .exit 0 ↔ ∃ input, reading = .ok input ∧
      (strict = true → ∃ description,
        Component.description? (some input.text) field = some description)) := by
  cases describes with
  | unreadable reason failed => simp [failed]
  | found input description read tells =>
      have found := (description?_of_reading tells).1
      simp [read, found]
  | missing input log read tells =>
      have missing := (description?_of_reading tells).1
      cases strict <;> simp [read, missing]
  | stopped fault failed other => simp [failed, other]

/-- Describing a property comes to exactly one report. The code 2 tells that the document was read,
that the property has no description in it and that this was asked strictly; the code 1 that the
input is unreadable. A description is put out as it is, and be it empty, and only where there is
none does the notice stand. -/
theorem report_describe (loaded : Except Settings.Arguments.Refusal Settings)
    (supply : Input.Supply) (path field : Text) (strict : Bool) :
    let reading := Input.readWith loaded supply path
    let report := (Request.describe path field strict).report loaded supply
    (∀ other, report = other ↔ Describes reading field strict other) ∧
      ((report.ending = .exit 2 ↔ strict = true ∧ ∃ input, reading = .ok input ∧
        Component.description? (some input.text) field = none) ∧
      (report.ending = .exit 1 ↔ ∃ reason, reading = .error (.unreadable reason)) ∧
      (report.ending = .exit 0 ↔ ∃ input, reading = .ok input ∧
        (strict = true → ∃ description,
          Component.description? (some input.text) field = some description))) ∧
      ∀ input, reading = .ok input →
        (∀ description, Component.description? (some input.text) field = some description →
          report.outputs = [.verbatim description true] ∧ report.ending = .exit 0) ∧
        (Component.description? (some input.text) field = none →
          report.outputs = [.marked ("[yellow]No description found for ".toList ++
            Markup.escape (Text.literal field) ++ "[/yellow]".toList)] ∧
            report.ending = .exit (if strict then 2 else 0)) := by
  intro reading report
  have describes : Describes reading field strict report := describes_describe reading field strict
  refine ⟨fun other => ⟨?_, fun describes => describes.eq_describe⟩, describes.exit_iff, ?_⟩
  · rintro rfl
    exact describes
  · intro input read
    have same : report = describe (.ok input) field strict :=
      congrArg (describe · field strict) read
    rw [same, ← undescribedNotice_eq]
    exact ⟨describe_found input field strict, describe_missing input field strict⟩

/-- A document on standard input in which the property has an empty description. -/
def emptyDescription : Input.Supply :=
  { standardInput := "\"x\": \x7b \"description\": \"\" \x7d".toList.flatMap String.utf8EncodeChar }

theorem report_describe_emptyDescription :
    let report := (Request.describe Input.standardPath ['x'] true).report (.ok {}) emptyDescription
    report.outputs = [.verbatim [] true] ∧ report.ending = .exit 0 := by
  have readable : Input.readWith (.ok {}) emptyDescription Input.standardPath =
      .ok { text := "\"x\": \x7b \"description\": \"\" \x7d".toList, source := Input.standardName
            size := 26 } := by decide +kernel
  have found : Component.description? (some "\"x\": \x7b \"description\": \"\" \x7d".toList) ['x'] =
      some [] := by decide +kernel
  obtain ⟨-, -, described⟩ :=
    report_describe (.ok {}) emptyDescription Input.standardPath ['x'] true
  exact (described _ readable).1 [] found

end DocScan.Command
