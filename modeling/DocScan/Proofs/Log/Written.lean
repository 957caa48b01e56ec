import DocScan.Log.Record
import DocScan.Proofs.Json.Characters
import DocScan.Proofs.Json.Documents

/-!
# What a written record shows

A record without extras that is written with an id shows its message, the name of its level and the
id. As JSON it is one line, whatever the message and the id are, and reading the line gives them
back; as plain text it is the template of the plain form with each of them in its place.
-/

namespace DocScan.Log

/-! ## What is shown -/

/-- The levels of events. The remaining one only opens the root to all of them. -/
def Level.standard : List Level := [critical, error, warning, info, debug]

theorem Level.number_pos {level : Level} (standard : level ∈ Level.standard) :
    0 < level.number := by
  have every : ∀ level ∈ Level.standard, 0 < level.number := by decide
  exact every level standard

/-- The text is one line of JSON. Reading it gives back the level, the message and the id. -/
def IsJsonLine (level : Level) (message : Text) (id : Option Text) (text : Text) : Prop :=
  ∃ body members, text = body ++ ['\n'] ∧ (∀ c ∈ body, Json.IsGraphic c) ∧
    Json.read body = .ok (.object members) ∧
    Json.Members.find? members "level".toList = some (.text level.name) ∧
    Json.Members.find? members "message".toList = some (.text message) ∧
    Json.Members.find? members Record.correlationName = some (Record.idValue id)

def IsPlainLine (record : Record) (level : Level) (message : Text) (id : Option Text)
    (text : Text) : Prop :=
  ∃ time, record.time? = some time ∧
    text = time ++ ' ' :: level.name ++ ' ' :: '[' :: id.getD "None".toList ++ ']' :: ' ' ::
      record.place.logger ++ ':' :: ' ' :: message ++ ['\n']

/-- The text shows the record in this form, with the id. -/
def Shows (format : Format) (record : Record) (level : Level) (message : Text) (id : Option Text)
    (text : Text) : Prop :=
  match format with
  | .json => IsJsonLine level message id text
  | .plain => IsPlainLine record level message id text

/-! ## Writing -/

section

variable {record : Record} {level : Level} {message : Text}

theorem fields_of_no_extras (bare : record.extras = []) (numbered : record.level = level.number)
    (id : Option Text) (message : Text) :
    record.fields (some id) message =
      [("timestamp".toList, .float record.created), ("level".toList, .text level.name),
       ("module".toList, .text record.place.module),
       ("function".toList, .text record.place.function), ("message".toList, .text message),
       (Record.correlationName, Record.idValue id), (Record.lineName, .int record.line)] := by
  obtain ⟨number, place, line, created, template, arguments, extras⟩ := record
  obtain rfl : extras = [] := bare
  rw [← Level.number_ofNumber? level, ← numbered]
  rfl

theorem exact_idValue (id : Option Text) : (Record.idValue id).Exact := by
  cases id with
  | none => exact Json.Value.exact_null
  | some id => exact Json.Value.exact_text id

theorem isJsonLine_write (bare : record.extras = []) (numbered : record.level = level.number)
    (id : Option Text) (message : Text) :
    IsJsonLine level message id
      (Json.Value.write Json.asciiStyle (.object (record.fields (some id) message)) ++ ['\n']) := by
  generalize shape : record.fields (some id) message = members
  have listed := (fields_of_no_extras bare numbered id message).symm.trans shape
  have names : (members.map Prod.fst).Nodup := by
    subst listed
    show ["timestamp".toList, "level".toList, "module".toList, "function".toList,
      "message".toList, Record.correlationName, Record.lineName].Nodup
    decide
  have flat : ∀ member ∈ members, member.2.Distinct := by
    subst listed
    cases id <;> simp [Json.Value.Distinct, Record.idValue]
  have readable : Json.Readable {} Json.asciiStyle := Json.readable_asciiStyle rfl
  obtain ⟨readings, read, resemble⟩ :=
    Json.exists_read_write readable ⟨names, Json.membersDistinct_iff.mpr flat⟩ rfl
  have found {name : Text} {value : Json.Value} (among : members.lookup name = some value) :=
    Json.lookup_of_membersResemble resemble among
  obtain ⟨ofLevel, levelFound, levelResembles⟩ :=
    found (by subst listed; rfl : members.lookup "level".toList = some (.text level.name))
  obtain ⟨ofMessage, messageFound, messageResembles⟩ :=
    found (by subst listed; rfl : members.lookup "message".toList = some (.text message))
  obtain ⟨ofId, idFound, idResembles⟩ :=
    found (by subst listed; rfl :
      members.lookup Record.correlationName = some (Record.idValue id))
  obtain rfl := Json.eq_of_resembles (Json.Value.exact_text _) levelResembles
  obtain rfl := Json.eq_of_resembles (Json.Value.exact_text _) messageResembles
  obtain rfl := Json.eq_of_resembles (exact_idValue id) idResembles
  exact ⟨_, readings, rfl, Json.isGraphic_of_mem_writeAt _ 0, read, levelFound, messageFound,
    idFound⟩

theorem display_idValue (id : Option Text) :
    (Record.idValue id).display = id.getD "None".toList := by
  cases id <;> rfl

theorem exists_write (format : Format) (bare : record.extras = [])
    (numbered : record.level = level.number) (filled : record.message? = some message)
    (dated : format = .plain → record.time?.isSome) (id : Option Text) :
    ∃ text, format.write record (some id) = some text ∧
      Shows format record level message id text := by
  cases format with
  | json =>
      exact ⟨_, written_json_of_message record _ message filled,
        isJsonLine_write bare numbered id message⟩
  | plain =>
      obtain ⟨time, moment⟩ := Option.isSome_iff_exists.mp (dated rfl)
      have name : Level.nameOfNumber record.level = level.name := by
        rw [numbered, Level.number_ofNumber?]
      refine ⟨_, ?_, time, moment, rfl⟩
      simp only [Format.write, Record.plain?, filled, moment, name, display_idValue]

end

end DocScan.Log
