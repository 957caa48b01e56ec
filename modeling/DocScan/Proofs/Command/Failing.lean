import DocScan.Command.Report

/-!
# How reading fails

Reading an input gives its text or finds it unreadable, which a command reports in red. All other
ways to fail end the command at once: standard input cannot be read with a limit that is too large,
the system may not say what stands at a path, and octets that are there and few enough cannot be
decoded if no codec has the name of the encoding, or if the codec itself gives up.
-/

namespace DocScan.Input

variable {settings : Settings} {supply : Supply} {path : Text}

/-! ## Octets -/

inductive LeadsTo (supply : Supply) (path : Text) : Bytes → Prop where
  | standard (isStandard : path = standardPath) : LeadsTo supply path supply.standardInput
  | file {place : List Text} {octets : Bytes} (isFile : path ≠ standardPath)
      (found : supply.files.file? (Path.ofText path) = .ok (some (place, octets)))
      (granted : supply.denials.lookup place = none) : LeadsTo supply path octets

/-- A read of standard input with this limit counts further than a read can. -/
def Uncountable (settings : Settings) (path : Text) : Prop :=
  path = standardPath ∧ readBound ≤ settings.limit + 1

/-- The system does not say what stands at the path of a file: a name in it is too long, or it goes
through a directory that may not be searched. -/
def Barred (supply : Supply) (path : Text) (denial : Files.Denial) : Prop :=
  path ≠ standardPath ∧ supply.files.file? (Path.ofText path) = .error denial

/-- There are octets to decode, and no more than the limit allows. -/
structure Decodes (settings : Settings) (supply : Supply) (path : Text) (octets : Bytes) :
    Prop where
  countable : ¬ Uncountable settings path
  leads : LeadsTo supply path octets
  within : (octets.length : Int) ≤ settings.limit

/-- How the decoding of octets fails, other than for the octets that are at fault. No octets do not
reach a codec, nor does a name with a zero character reach the register of the codecs. -/
inductive Stops (settings : Settings) (supply : Supply) (octets : Bytes) : Fault → Prop where
  | zeroInName (zero : Char.ofNat 0 ∈ settings.encoding) : Stops settings supply octets .zeroInName
  | unknownEncoding (nonempty : octets ≠ []) (named : Char.ofNat 0 ∉ settings.encoding)
      (unknown : supply.codecs settings.encoding = none) :
      Stops settings supply octets (.unknownEncoding settings.encoding)
  | brokenCodec {codec : Codec} {wording : Text} (nonempty : octets ≠ [])
      (named : Char.ofNat 0 ∉ settings.encoding)
      (known : supply.codecs settings.encoding = some codec)
      (broken : codec octets = .error (.broken wording)) :
      Stops settings supply octets (.brokenCodec wording)

/-- The failures that no reader of the input can mend. -/
inductive Escapes (settings : Settings) (supply : Supply) (path : Text) : Fault → Prop where
  | uncountable (large : Uncountable settings path) : Escapes settings supply path .uncountable
  | barred {denial : Files.Denial} (barred : Barred supply path denial) :
      Escapes settings supply path (.barred (Path.ofText path) denial)
  | decoding {octets : Bytes} {fault : Fault} (decodes : Decodes settings supply path octets)
      (stops : Stops settings supply octets fault) : Escapes settings supply path fault

/-! ## Fetching -/

theorem fetch_uncountable (large : Uncountable settings path) :
    fetch settings.limit supply path = .error .uncountable := by
  rw [fetch, if_pos large.1, fetchStandard, if_pos large.2]
  rfl

theorem fetch_barred {denial : Files.Denial} (barred : Barred supply path denial) :
    fetch settings.limit supply path = .error (.barred (Path.ofText path) denial) := by
  obtain ⟨isFile, found⟩ := barred
  rw [fetch, if_neg isFile, fetchFile, found]
  rfl

theorem exists_fetch {octets : Bytes} (decodes : Decodes settings supply path octets) :
    ∃ source, fetch settings.limit supply path = .ok (octets, source) := by
  obtain ⟨countable, leads, within⟩ := decodes
  cases leads with
  | standard isStandard =>
      have small : ¬ readBound ≤ settings.limit + 1 := fun large => countable ⟨isStandard, large⟩
      have whole : supply.standardInput.take (settings.limit + 1).toNat = supply.standardInput :=
        List.take_of_length_le (by omega)
      refine ⟨standardName, ?_⟩
      rw [fetch, if_pos isStandard, fetchStandard, if_neg small, whole]
      rfl
  | file isFile found granted =>
      refine ⟨(Path.ofText path).text, ?_⟩
      rw [fetch, if_neg isFile, fetchFile, found]
      simp only [if_neg (Int.not_lt.mpr within), granted]
      rfl

theorem fetchFile_cases (limit : Int) (supply : Supply) (path : Text) :
    (∃ denial, supply.files.file? (Path.ofText path) = .error denial) ∨
    (∃ reason, fetchFile limit supply path = .error (.unreadable reason)) ∨
    ∃ place octets, supply.files.file? (Path.ofText path) = .ok (some (place, octets)) ∧
      supply.denials.lookup place = none ∧ fetchFile limit supply path = .ok octets := by
  unfold fetchFile
  cases supply.files.file? (Path.ofText path) with
  | error denial => exact .inl ⟨denial, rfl⟩
  | ok stands =>
      cases stands with
      | none => exact .inr (.inl ⟨_, rfl⟩)
      | some file =>
          obtain ⟨place, octets⟩ := file
          dsimp only
          by_cases large : limit < octets.length
          · rw [if_pos large]
            exact .inr (.inl ⟨_, rfl⟩)
          · rw [if_neg large]
            cases denied : supply.denials.lookup place with
            | some denial => exact .inr (.inl ⟨_, rfl⟩)
            | none => exact .inr (.inr ⟨place, octets, rfl, denied, rfl⟩)

theorem fetch_cases (settings : Settings) (supply : Supply) (path : Text) :
    Uncountable settings path ∨ (∃ denial, Barred supply path denial) ∨
    (∃ reason, fetch settings.limit supply path = .error (.unreadable reason)) ∨
    ∃ octets source, fetch settings.limit supply path = .ok (octets, source) ∧
      ((octets.length : Int) ≤ settings.limit → Decodes settings supply path octets) := by
  unfold fetch
  by_cases isStandard : path = standardPath
  · rw [if_pos isStandard, fetchStandard]
    by_cases large : readBound ≤ settings.limit + 1
    · exact .inl ⟨isStandard, large⟩
    · rw [if_neg large]
      -- One octet more than the limit is asked for. If no more than the limit came, that was all.
      refine .inr (.inr (.inr ⟨supply.standardInput.take (settings.limit + 1).toNat, standardName,
        rfl, fun within => ⟨fun both => large both.2, ?_, within⟩⟩))
      rw [List.length_take] at within
      rw [List.take_of_length_le (by omega)]
      exact .standard isStandard
  · rw [if_neg isStandard]
    rcases fetchFile_cases settings.limit supply path with
      ⟨denial, found⟩ | ⟨reason, failed⟩ | ⟨place, octets, found, granted, fetched⟩
    · exact .inr (.inl ⟨denial, isStandard, found⟩)
    · rw [failed]
      exact .inr (.inr (.inl ⟨reason, rfl⟩))
    · rw [fetched]
      exact .inr (.inr (.inr ⟨octets, _, rfl, fun within =>
        ⟨fun both => isStandard both.1, .file isStandard found granted, within⟩⟩))

/-! ## Reading -/

theorem spelledBy_of_stops {octets : Bytes} {fault : Fault} (source : Text)
    (stops : Stops settings supply octets fault) :
    spelledBy (supply.codec? settings.encoding) settings.encoding source octets =
      .error fault := by
  cases stops with
  | zeroInName zero => rw [Supply.codec?, if_pos zero, spelledBy, if_pos zero]
  | unknownEncoding nonempty named unknown =>
      rw [Supply.codec?, if_neg named, unknown, spelledBy, if_neg named, if_neg nonempty]
  | brokenCodec nonempty named known broken =>
      rw [Supply.codec?, if_neg named, known, spelledBy, Codec.decode, if_neg nonempty, broken]
      rfl

theorem stops_of_spelledBy {octets : Bytes} {source : Text} {fault : Fault}
    (other : ∀ reason, fault ≠ .unreadable reason)
    (failed : spelledBy (supply.codec? settings.encoding) settings.encoding source octets =
      .error fault) : Stops settings supply octets fault := by
  by_cases zero : Char.ofNat 0 ∈ settings.encoding
  · rw [Supply.codec?, if_pos zero, spelledBy, if_pos zero] at failed
    exact Except.error.inj failed ▸ .zeroInName zero
  rw [Supply.codec?, if_neg zero] at failed
  cases known : supply.codecs settings.encoding with
  | none =>
      rw [known, spelledBy, if_neg zero] at failed
      split at failed
      · cases failed
      · rename_i nonempty
        exact Except.error.inj failed ▸ .unknownEncoding nonempty zero known
  | some codec =>
      rw [known, spelledBy, Codec.decode] at failed
      split at failed
      · cases failed
      · rename_i nonempty
        cases decoded : codec octets with
        | ok text =>
            rw [decoded] at failed
            cases failed
        | error failure =>
            rw [decoded] at failed
            obtain rfl := Except.error.inj failed
            cases failure with
            | undecodable fault => exact absurd rfl (other _)
            | broken wording => exact .brokenCodec nonempty zero known decoded

theorem Stops.ne_unreadable {octets : Bytes} {fault : Fault}
    (stops : Stops settings supply octets fault) (reason : Unreadable) :
    fault ≠ .unreadable reason := by
  cases stops <;> simp

theorem read_of_escapes {fault : Fault} (escapes : Escapes settings supply path fault) :
    read settings supply path = .error fault := by
  unfold read readBy
  cases escapes with
  | uncountable large => rw [fetch_uncountable large]
  | barred barred => rw [fetch_barred barred]
  | decoding decodes stops =>
      obtain ⟨source, fetched⟩ := exists_fetch decodes
      rw [fetched]
      dsimp only
      rw [decodedBy, if_neg (Int.not_lt.mpr decodes.within), spelledBy_of_stops source stops]
      rfl

theorem escapes_of_read {fault : Fault} (other : ∀ reason, fault ≠ .unreadable reason)
    (failed : read settings supply path = .error fault) : Escapes settings supply path fault := by
  unfold read readBy at failed
  rcases fetch_cases settings supply path with
    large | ⟨denial, barred⟩ | ⟨reason, fetched⟩ | ⟨octets, source, fetched, decodes⟩
  · rw [fetch_uncountable large] at failed
    exact Except.error.inj failed ▸ .uncountable large
  · rw [fetch_barred barred] at failed
    exact Except.error.inj failed ▸ .barred barred
  · rw [fetched] at failed
    exact absurd (Except.error.inj failed).symm (other reason)
  · rw [fetched] at failed
    dsimp only at failed
    unfold decodedBy at failed
    split at failed
    · exact absurd (Except.error.inj failed).symm (other _)
    · rename_i few
      cases spelled :
        spelledBy (supply.codec? settings.encoding) settings.encoding source octets with
      | ok text =>
          rw [spelled] at failed
          cases failed
      | error found =>
          rw [spelled] at failed
          obtain rfl := Except.error.inj failed
          exact .decoding (decodes (Int.not_lt.mp few)) (stops_of_spelledBy other spelled)

/-- Reading is documented to give a text or to find the input unreadable. -/
def Documented (result : Except Fault Input) : Prop :=
  (∃ input, result = .ok input) ∨ ∃ reason, result = .error (.unreadable reason)

theorem not_documented {result : Except Fault Input} {fault : Fault}
    (failed : result = .error fault) (other : ∀ reason, fault ≠ .unreadable reason) :
    ¬ Documented result := by
  rintro (⟨input, read⟩ | ⟨reason, unreadable⟩)
  · cases failed.symm.trans read
  · exact other reason (Except.error.inj (failed.symm.trans unreadable))

theorem Escapes.ne_unreadable {fault : Fault} (escapes : Escapes settings supply path fault)
    (reason : Unreadable) : fault ≠ .unreadable reason := by
  cases escapes with
  | uncountable large => simp
  | barred barred => simp
  | decoding decodes stops => exact stops.ne_unreadable reason

theorem documented_iff (settings : Settings) (supply : Supply) (path : Text) :
    Documented (read settings supply path) ↔ ∀ fault, ¬ Escapes settings supply path fault := by
  constructor
  · intro documented fault escapes
    exact not_documented (read_of_escapes escapes) escapes.ne_unreadable documented
  · intro never
    cases result : read settings supply path with
    | ok input => exact .inl ⟨input, rfl⟩
    | error fault =>
        by_cases reported : ∃ reason, fault = .unreadable reason
        · obtain ⟨reason, rfl⟩ := reported
          exact .inr ⟨reason, rfl⟩
        · have other (reason : Unreadable) : fault ≠ .unreadable reason := fun same =>
            reported ⟨reason, same⟩
          exact absurd (escapes_of_read other result) (never fault)

theorem barred_of_long {name : Text} (proper : Path.isProper name = true) (plain : '/' ∉ name)
    (possible : Char.ofNat 0 ∉ name) (long : Files.maxName < Text.octets name)
    (searched : supply.files.closed.lookup [] = none) : Barred supply name .nameTooLong := by
  have text : (Path.ofText name).text = name := Path.text_ofText_name name proper plain
  have names : (Path.ofText name).names = [name] := by
    simp [Path.ofText, Path.split_of_not_mem '/' name plain, proper]
  have relative : Files.startOf (Path.ofText name) = [] := by
    have noRoot : Path.rootOf name = [] := by
      unfold Path.rootOf
      split <;> simp_all
    simp [Files.startOf, Path.ofText, noRoot]
  have missed : supply.files.find (Path.ofText name) = .error (.denied .nameTooLong) := by
    rw [Files.find, text, if_neg possible, names, relative]
    split
    · rfl
    · rw [Files.follow, Files.standing?, if_pos rfl]
      simp only [searched]
      exact if_pos long
  refine ⟨?_, ?_⟩
  · rintro rfl
    exact absurd long (by decide)
  · rw [Files.file?, missed]

def smallFile : Supply := { files := ({} : Files).write [['f']] [120] }

def longName : Text := List.replicate 256 'a'

/-- A file in a directory that may not be searched. -/
def closedFile : Supply :=
  { files := ({ closed := [([['d']], ⟨13, "Permission denied".toList⟩)] } : Files).write
      [['d'], ['f']] [120] }

def unheardOf : Environment := [("SCHEMASCAN_INPUT_ENCODING".toList, "klingon".toList)]

def boundless : Environment :=
  [("SCHEMASCAN_MAX_INPUT_BYTES".toList, "9223372036854775807".toList)]

/-- Settings that are accepted do not keep reading from failing in other ways, nor does what stands
at a path. -/
theorem read_not_documented :
    (∃ settings, Settings.load { environment := unheardOf } = .ok settings ∧
      ¬ Documented (read settings smallFile ['f'])) ∧
    ¬ Documented (read {} smallFile longName) ∧
    ¬ Documented (read {} closedFile "d/f".toList) ∧
    ∃ settings, Settings.load { environment := boundless } = .ok settings ∧
      ¬ Documented (read settings { standardInput := [120] } standardPath) := by
  refine ⟨⟨{ encoding := "klingon".toList }, rfl, ?_⟩, ?_, ?_,
    ⟨{ limit := 9223372036854775807 }, rfl, ?_⟩⟩
  · have failed : read { encoding := "klingon".toList } smallFile ['f'] =
        .error (.unknownEncoding "klingon".toList) := rfl
    exact not_documented failed (by simp)
  · have only {c : Char} (member : c ∈ longName) : c = 'a' := List.eq_of_mem_replicate member
    have barred : Barred smallFile longName .nameTooLong :=
      barred_of_long (by decide +kernel)
        (fun slash => absurd (only slash) (by decide))
        (fun zero => absurd (only zero) (by decide)) (by decide +kernel) rfl
    exact not_documented (read_of_escapes (.barred barred)) (by simp)
  · have barred : Barred closedFile "d/f".toList ⟨13, "Permission denied".toList⟩ :=
      ⟨by decide, rfl⟩
    exact not_documented (read_of_escapes (.barred barred)) (by simp)
  · have failed : read { limit := 9223372036854775807 } { standardInput := [120] } standardPath =
        .error .uncountable := rfl
    exact not_documented failed (by simp)

end DocScan.Input

namespace DocScan.Command

/-! ## Reporting -/

theorem report_of_error {settings : Settings} {supply : Input.Supply} {path : Text}
    {request : Request} (reads : request.path? = some path) {fault : Input.Fault}
    (failed : Input.read settings supply path = .error fault) :
    ∃ name, request.report (.ok settings) supply = inputFailed name fault := by
  cases request with
  | help name => cases reads
  | classify name array isEnum primitiveOnly => cases reads
  | describe path field strict =>
      obtain rfl := Option.some.inj reads
      refine ⟨.describe, ?_⟩
      rw [Request.report, Input.readWith, failed]
      rfl
  | options path format =>
      obtain rfl := Option.some.inj reads
      refine ⟨.options, ?_⟩
      rw [Request.report, Input.readWith, failed]
      rfl

/-- Reading does what it is documented to do unless it fails in one of the other ways. An input that
it finds unreadable is reported in red by the command that reads, which ends with the code for
failure; the other failures end the command without a word. -/
theorem read_and_report (settings : Settings) (supply : Input.Supply) (path : Text) :
    (Input.Documented (Input.read settings supply path) ↔
      ∀ fault, ¬ Input.Escapes settings supply path fault) ∧
    ∀ request : Request, request.path? = some path →
      (∀ reason, Input.read settings supply path = .error (.unreadable reason) →
        (request.report (.ok settings) supply).outputs =
            [.marked (styled red ("✗ ".toList ++ Markup.escape reason.message))] ∧
          (request.report (.ok settings) supply).ending = .exit failure) ∧
      ∀ fault, Input.Escapes settings supply path fault →
        request.report (.ok settings) supply = { ending := .failed (.input fault) } := by
  refine ⟨Input.documented_iff settings supply path, fun request reads => ⟨?_, ?_⟩⟩
  · intro reason failed
    obtain ⟨name, reported⟩ := report_of_error reads failed
    rw [reported]
    exact ⟨rfl, rfl⟩
  · intro fault escapes
    obtain ⟨name, reported⟩ := report_of_error reads (Input.read_of_escapes escapes)
    rw [reported]
    cases fault with
    | unreadable reason => exact absurd rfl (escapes.ne_unreadable reason)
    | _ => rfl

end DocScan.Command
