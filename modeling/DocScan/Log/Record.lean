import DocScan.Calendar
import DocScan.Json.Writer
import DocScan.Log.Event
import DocScan.Log.Template

/-!
# Log records and their two forms

A record is a message on its way to the log. It is written as a JSON object on one line or as plain
text. The correlation id is not part of the record: it is the one in force when the record is
written, and a writer may or may not know it.
-/

namespace DocScan.Log

/-- A record. The level is a number, because not every number is that of a level. -/
structure Record where
  level : Int
  place : Place
  line : Int
  created : Binary64
  template : Text
  arguments : List Json.Value := []
  extras : Json.Members := []

inductive Format where
  | json
  | plain
deriving DecidableEq, Repr

/-- What a writer knows of the correlation id: nothing at all, or the id in force, if there is one.
-/
abbrev Stamp := Option (Option Text)

namespace Record

def ofEvent (created : Binary64) (line : Int) (event : Event) : Record :=
  { level := event.level.number, place := event.place, line, created, template := event.message }

def message? (record : Record) : Option Text := Template.fill record.template record.arguments

/-! ## JSON -/

def leadingFields (record : Record) (message : Text) : Json.Members :=
  [("timestamp".toList, .float record.created),
   ("level".toList, .text (Level.nameOfNumber record.level)),
   ("module".toList, .text record.place.module),
   ("function".toList, .text record.place.function),
   ("message".toList, .text message)]

def correlationName : Text := "correlation_id".toList

def lineName : Text := "line".toList

/-- The extras that are shown: names with an underscore in front are private, and no extra takes the
place of a leading field. -/
def shownExtras (record : Record) (leading : Json.Members) : Json.Members :=
  record.extras.filter fun (name, _) => name.head? != some '_' && (leading.lookup name).isNone

def idValue : Option Text → Json.Value
  | some id => .text id
  | none => .null

def stamped (stamp : Stamp) (fields : Json.Members) : Json.Members :=
  match stamp with
  | some id => Json.Members.insert fields correlationName (idValue id)
  | none => fields

def fields (record : Record) (stamp : Stamp) (message : Text) : Json.Members :=
  let leading := record.leadingFields message
  Json.Members.insert (stamped stamp (leading ++ record.shownExtras leading)) lineName
    (.int record.line)

def json? (record : Record) (stamp : Stamp) : Option Text :=
  record.message?.map fun message =>
    Json.Value.write Json.asciiStyle (.object (record.fields stamp message)) ++ ['\n']

/-! ## Plain text -/

/-- The thousandths of a second with at least three characters, a minus sign included. -/
def thousandthsText (number : Int) : Text :=
  if number < 0 then '-' :: Text.padLeft '0' 2 (Text.ofNat number.natAbs)
  else Text.padLeft '0' 3 (Text.ofNat number.natAbs)

/-- The moment of a record in words, unless no calendar has it. -/
def time? (record : Record) : Option Text :=
  match record.created.floor?.map Calendar.momentOfSecond with
  | some moment =>
    if moment.isRepresentable then
      some (moment.text ++ ',' :: thousandthsText record.created.thousandths)
    else none
  | none => none

/-- A record as plain text, which always shows the correlation id. -/
def plain? (record : Record) (stamp : Stamp) : Option Text :=
  match record.message?, record.time?, stamp with
  | some message, some time, some id =>
    some (time ++ ' ' :: Level.nameOfNumber record.level ++ ' ' :: '[' :: (idValue id).display ++
      ']' :: ' ' :: record.place.logger ++ ':' :: ' ' :: message ++ ['\n'])
  | _, _, _ => none

end Record

/-- A record in one of the two forms; there may be nothing to write. -/
def Format.write (format : Format) (record : Record) (stamp : Stamp) : Option Text :=
  match format with
  | .json => record.json? stamp
  | .plain => record.plain? stamp

theorem written_json_of_message (record : Record) (stamp : Stamp) (message : Text)
    (filled : record.message? = some message) :
    Format.json.write record stamp =
      some (Json.Value.write Json.asciiStyle (.object (record.fields stamp message)) ++
        ['\n']) := by
  simp [Format.write, Record.json?, filled]

/-! ## Places from paths -/

def fileName (path : Text) : Text := ((Text.split '/' path).getLast?).getD []

/-- A file name without its last extension. Dots in front of a name start no extension. -/
def withoutExtension (name : Text) : Text :=
  let dots := name.takeWhile (· = '.')
  let rest := name.dropWhile (· = '.')
  let reversed := rest.reverse
  match reversed.dropWhile (· ≠ '.') with
  | [] => name
  | _ :: stem => dots ++ stem.reverse

def Place.ofPath (path function logger : Text) : Place :=
  { logger, module := withoutExtension (fileName path), function }

end DocScan.Log
