import DocScan.Input
import DocScan.Proofs.Codec.Encoding

/-!
# Standard input and files

The same octets come to the same text from either source, or to none from both. A file is refused by
its size before it is read; of standard input one octet more than the limit is read, so that the
refusal comes before any decoding there too, even if the cut goes through a character.
-/

namespace DocScan

/-! ## Strict codecs -/

/-- The codec fails only for octets that are at fault. -/
def Codec.Strict (codec : Codec) : Prop :=
  ∀ octets failure, codec octets = .error failure → ∃ fault, failure = .undecodable fault

theorem Codec.Strict.decode {codec : Codec} (strict : codec.Strict) {octets : Bytes}
    {failure : Codec.Failure} (failed : codec.decode octets = .error failure) :
    ∃ fault, failure = .undecodable fault := by
  unfold Codec.decode at failed
  split at failed
  · cases failed
  · exact strict octets failure failed

namespace Encoding

variable (encoding : Encoding)

theorem codec_strict : encoding.codec.Strict := by
  intro octets failure failed
  unfold codec at failed
  cases decoded : encoding.decode octets with
  | ok text =>
      rw [decoded] at failed
      cases failed
  | error fault =>
      rw [decoded] at failed
      exact ⟨fault, (Except.error.inj failed).symm⟩

theorem codec_decode (octets : Bytes) :
    encoding.codec.decode octets = (encoding.decode octets).mapError .undecodable := by
  unfold Codec.decode
  split
  · rename_i empty
    rw [empty, encoding.decode_nil]
    rfl
  · rfl

theorem codec_decode_eq_ok_iff (octets : Bytes) (text : Text) :
    encoding.codec.decode octets = .ok text ↔ encoding.Spells text octets := by
  rw [codec_decode, ← decode_eq_ok_iff]
  cases encoding.decode octets with
  | ok found =>
      constructor
      · exact fun same => congrArg Except.ok (Except.ok.inj same)
      · exact fun same => congrArg Except.ok (Except.ok.inj same)
  | error fault => constructor <;> rintro ⟨⟩

theorem codec?_of_ofName? {supply : Input.Supply} {name : Text}
    (usual : supply.codecs = codecs) (named : ofName? name = some encoding) :
    supply.codec? name = some encoding.codec := by
  have possible : Char.ofNat 0 ∉ name := by
    intro zero
    rw [ofName?, if_pos zero] at named
    cases named
  rw [Input.Supply.codec?, if_neg possible, usual, codecs, named]
  rfl

end Encoding

namespace Input

variable {settings : Settings} {supply : Supply}

/-! ## What octets come to -/

variable {codec : Codec} {octets : Bytes}

/-- The result is what these octets come to: their whole text if they are few enough and have one,
and otherwise a complaint, about their number in the first place. -/
structure Accounts (codec : Codec) (settings : Settings) (octets : Bytes) (source : Text)
    (oversize : Unreadable) (result : Except Fault Input) : Prop where
  returns_iff : ∀ text, (∃ input, result = .ok input ∧ input.text = text) ↔
    (octets.length : Int) ≤ settings.limit ∧ codec.decode octets = .ok text
  tells : ∀ input, result = .ok input → input.events =
    [place.debug ("Read ".toList ++ Text.ofNat octets.length ++ " bytes from ".toList ++ source)]
  oversize : settings.limit < octets.length → result = .error (.unreadable oversize)
  undecodable : (octets.length : Int) ≤ settings.limit → ∀ fault,
    codec.decode octets = .error (.undecodable fault) →
    result = .error (.unreadable (.undecodable source settings.encoding fault))

theorem accounts_of_oversize (large : settings.limit < octets.length) (source : Text)
    (oversize : Unreadable) :
    Accounts codec settings octets source oversize (.error (.unreadable oversize)) :=
  { returns_iff := fun _ => iff_of_false nofun fun both => absurd large (Int.not_lt.mpr both.1)
    tells := nofun
    oversize := fun _ => rfl
    undecodable := fun within => absurd large (Int.not_lt.mpr within) }

theorem decodedBy_of_within (within : (octets.length : Int) ≤ settings.limit) (source : Text) :
    decodedBy (some codec) settings octets source =
      match codec.decode octets with
      | .ok text => .ok { text, source, size := octets.length }
      | .error failure => .error (codecFault settings.encoding source failure) := by
  rw [decodedBy, if_neg (Int.not_lt.mpr within), spelledBy]
  cases codec.decode octets <;> rfl

theorem accounts_of_within (strict : codec.Strict)
    (within : (octets.length : Int) ≤ settings.limit) (source : Text) (oversize : Unreadable) :
    Accounts codec settings octets source oversize
      (decodedBy (some codec) settings octets source) := by
  rw [decodedBy_of_within within]
  cases decodes : codec.decode octets with
  | ok text =>
      exact
        { returns_iff := by simp [within, decodes]
          tells := by rintro _ ⟨⟩; rfl
          oversize := fun large => absurd large (Int.not_lt.mpr within)
          undecodable := by simp [decodes] }
  | error failure =>
      obtain ⟨fault, rfl⟩ := strict.decode decodes
      exact
        { returns_iff := by simp [decodes]
          tells := nofun
          oversize := fun large => absurd large (Int.not_lt.mpr within)
          undecodable := by simp [decodes, codecFault] }

theorem accounts_standard (strict : codec.Strict) (countable : settings.limit + 1 < readBound) :
    Accounts codec settings supply.standardInput standardName
      (.exceeds standardName settings.limit)
      (readBy (some codec) settings supply standardPath) := by
  have fetched : fetch settings.limit supply standardPath =
      .ok (supply.standardInput.take (settings.limit + 1).toNat, standardName) := by
    rw [fetch, if_pos rfl, fetchStandard, if_neg (Int.not_le.mpr countable)]
    rfl
  rw [readBy, fetched]
  by_cases large : settings.limit < supply.standardInput.length
  · -- The cut keeps one octet too many, which is found before anything is decoded.
    have cut : settings.limit <
        (supply.standardInput.take (settings.limit + 1).toNat).length := by
      rw [List.length_take]
      omega
    dsimp only
    rw [decodedBy, if_pos cut]
    exact accounts_of_oversize large _ _
  · dsimp only
    rw [List.take_of_length_le (by omega)]
    exact accounts_of_within strict (Int.not_lt.mp large) _ _

theorem accounts_file (strict : codec.Strict) {path : Text} {place : List Text}
    (isFile : path ≠ standardPath)
    (found : supply.files.file? (Path.ofText path) = .ok (some (place, octets)))
    (granted : supply.denials.lookup place = none) :
    Accounts codec settings octets (Path.ofText path).text
      (.tooLarge path octets.length settings.limit)
      (readBy (some codec) settings supply path) := by
  rw [readBy, fetch, if_neg isFile, fetchFile, found]
  dsimp only
  by_cases large : settings.limit < octets.length
  · rw [if_pos large]
    exact accounts_of_oversize large _ _
  · rw [if_neg large, granted]
    exact accounts_of_within strict (Int.not_lt.mp large) _ _

/-! ## Agreement -/

/-- Both results are the same text, or both are complaints about the input. -/
def Agree (result other : Except Fault Input) : Prop :=
  (∃ input input', result = .ok input ∧ other = .ok input' ∧ input.text = input'.text) ∨
    ∃ reason reason', result = .error (.unreadable reason) ∧ other = .error (.unreadable reason')

theorem Accounts.agree {source source' : Text} {oversize oversize' : Unreadable}
    {result other : Except Fault Input} (strict : codec.Strict)
    (accounts : Accounts codec settings octets source oversize result)
    (accounts' : Accounts codec settings octets source' oversize' other) : Agree result other := by
  by_cases within : (octets.length : Int) ≤ settings.limit
  · cases decodes : codec.decode octets with
    | ok text =>
        obtain ⟨input, read, same⟩ := (accounts.returns_iff text).mpr ⟨within, decodes⟩
        obtain ⟨input', read', same'⟩ := (accounts'.returns_iff text).mpr ⟨within, decodes⟩
        exact .inl ⟨input, input', read, read', same.trans same'.symm⟩
    | error failure =>
        obtain ⟨fault, rfl⟩ := strict.decode decodes
        exact .inr ⟨_, _, accounts.undecodable within fault decodes,
          accounts'.undecodable within fault decodes⟩
  · have large := Int.not_le.mp within
    exact .inr ⟨_, _, accounts.oversize large, accounts'.oversize large⟩

/-- Octets that are in a file and on standard input come to the same from either source, if the
codec of the settings is strict. Each encoding that has a name here has a strict codec, and with it
the octets come to the text whose octets they are. -/
theorem sources_agree {path : Text} {place : List Text} (isFile : path ≠ standardPath)
    (found : supply.files.file? (Path.ofText path) = .ok (some (place, octets)))
    (granted : supply.denials.lookup place = none) (given : supply.standardInput = octets)
    (countable : settings.limit + 1 < readBound) :
    (∀ codec, supply.codec? settings.encoding = some codec → codec.Strict →
      Accounts codec settings octets standardName (.exceeds standardName settings.limit)
        (read settings supply standardPath) ∧
      Accounts codec settings octets (Path.ofText path).text
        (.tooLarge path octets.length settings.limit) (read settings supply path) ∧
      Agree (read settings supply standardPath) (read settings supply path)) ∧
    ∀ known, supply.codecs = Encoding.codecs → Encoding.ofName? settings.encoding = some known →
      supply.codec? settings.encoding = some known.codec ∧ known.codec.Strict ∧
        ∀ text, known.codec.decode octets = .ok text ↔ known.Spells text octets := by
  refine ⟨fun codec known strict => ?_, fun known usual named => ?_⟩
  · have standard : Accounts codec settings octets standardName
        (.exceeds standardName settings.limit) (read settings supply standardPath) := by
      rw [read, known]
      exact given ▸ accounts_standard strict countable
    have file : Accounts codec settings octets (Path.ofText path).text
        (.tooLarge path octets.length settings.limit) (read settings supply path) := by
      rw [read, known]
      exact accounts_file strict isFile found granted
    exact ⟨standard, file, standard.agree strict file⟩
  · exact ⟨known.codec?_of_ofName? usual named, known.codec_strict,
      known.codec_decode_eq_ok_iff octets⟩

/-- A letter and a character of two octets, in a file and on standard input. -/
def letters : Supply :=
  { files := ({} : Files).write [['f']] [0x61, 0xC3, 0xA9], standardInput := [0x61, 0xC3, 0xA9] }

theorem sources_agree_letters :
    read { limit := 1 } letters standardPath = .error (.unreadable (.exceeds standardName 1)) ∧
      read { limit := 1 } letters ['f'] = .error (.unreadable (.tooLarge ['f'] 3 1)) ∧
      (∃ fault, Encoding.utf8.decode (letters.standardInput.take 2) = .error fault) ∧
      ∃ input, read { limit := 3 } letters ['f'] = .ok input ∧ input.text = ['a', 'é'] := by
  have isFile : ['f'] ≠ standardPath := by decide
  have found : letters.files.file? (Path.ofText ['f']) =
      .ok (some ([['f']], [0x61, 0xC3, 0xA9])) := rfl
  have named : Encoding.ofName? ({} : Settings).encoding = some .utf8 := by decide
  have few : ({ limit := 1 } : Settings).limit + 1 < readBound := by decide
  have enough : ({ limit := 3 } : Settings).limit + 1 < readBound := by decide
  obtain ⟨narrow, usual⟩ := sources_agree isFile found rfl rfl few
  obtain ⟨wide, -⟩ := sources_agree isFile found rfl rfl enough
  obtain ⟨known, strict, spells⟩ := usual .utf8 rfl named
  obtain ⟨standard, file, -⟩ := narrow _ known strict
  obtain ⟨-, fileWide, -⟩ := wide _ known strict
  refine ⟨standard.oversize (by decide), file.oversize (by decide), ⟨_, rfl⟩, ?_⟩
  exact (fileWide.returns_iff _).mpr ⟨by decide, (spells _).mpr rfl⟩

end Input

end DocScan
