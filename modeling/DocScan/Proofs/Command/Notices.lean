import DocScan.Proofs.Command.Failing
import DocScan.Proofs.Json.Numbers
import DocScan.Proofs.Markup.Escaping

/-!
# Notices of unreadable input

The reason why an input is unreadable is shown in red, between a tag that opens the style and one
that closes it. Nothing in the wording takes effect as a tag. What it ends with may keep the closing
tag from taking effect, though: an odd number of backslashes, but for a single one. Only the path of
a missing file can bring it about.
-/

namespace DocScan.Input

open Markup (Unslashed)

/-! ## What a wording ends with -/

theorem unslashed_ofInt (n : Int) (front : Text) : Unslashed (front ++ Text.ofInt n) := by
  have digits := Json.isDigits_ofNat n.natAbs
  have free : '\\' ∉ Text.ofNat n.natAbs := fun slash => by cases digits.2 _ slash
  have ends : Unslashed (Text.ofNat n.natAbs) := fun last => free (List.mem_of_getLast? last)
  unfold Text.ofInt
  split
  · rw [List.append_cons]
    exact ends.behind digits.1 _
  · exact ends.behind digits.1 _

theorem unslashed_literal (front text : Text) : Unslashed (front ++ Text.literal text) := by
  rw [Text.literal_eq, ← List.append_assoc, Markup.unslashed_concat_iff, Text.literalQuote]
  split <;> decide

theorem unslashed_reason (reason : Codec.Reason) : Unslashed reason.message := by
  cases reason with
  | worded wording => exact wording.ends
  | _ => decide +kernel

theorem unslashed_fault (fault : Codec.Fault) (front : Text) :
    Unslashed (front ++ fault.message) := by
  have colon : Unslashed [':', ' '] := by decide
  dsimp only [Codec.Fault.message]
  rw [← List.append_assoc, ← List.append_assoc]
  exact (colon.behind (by simp) _).append (unslashed_reason fault.reason)

theorem unslashed_message {reason : Unreadable} (present : ∀ path, reason ≠ .notFound path) :
    Unslashed reason.message := by
  cases reason with
  | notFound path => exact absurd rfl (present path)
  | tooLarge path size limit =>
      dsimp only [Unreadable.message]
      exact unslashed_ofInt limit _
  | denied path denial =>
      dsimp only [Unreadable.message, Files.Denial.message]
      rw [← List.append_assoc]
      exact unslashed_literal _ _
  | exceeds source limit =>
      have ends : Unslashed " bytes".toList := by decide +kernel
      dsimp only [Unreadable.message]
      exact ends.behind (by decide +kernel) _
  | undecodable source encoding fault =>
      dsimp only [Unreadable.message]
      exact unslashed_fault fault _

theorem trailingSlashes_message_notFound (path : Text) :
    Markup.trailingSlashes (Unreadable.notFound path).message = Markup.trailingSlashes path := by
  obtain ⟨front, slashes, rfl, ends⟩ := Markup.exists_trailing path
  have words : Unslashed "Input file not found: ".toList := by decide +kernel
  dsimp only [Unreadable.message]
  rw [← List.append_assoc, Markup.trailingSlashes_eq (words.append ends),
    Markup.trailingSlashes_eq ends]

theorem trailingSlashes_message {reason : Unreadable} (present : ∀ path, reason ≠ .notFound path) :
    Markup.trailingSlashes reason.message = 0 := by
  have ends := Markup.trailingSlashes_eq (unslashed_message present) 0
  rwa [List.replicate_zero, List.append_nil] at ends

/-! ## The missing path -/

theorem fetchFile_notFound {limit : Int} {supply : Supply} {path missing : Text}
    (failed : fetchFile limit supply path = .error (.unreadable (.notFound missing))) :
    missing = path := by
  unfold fetchFile at failed
  split at failed
  · cases failed
  · cases failed
    rfl
  · split at failed
    · cases failed
    · split at failed <;> cases failed

theorem spelledBy_ne_notFound (codec? : Option Codec) (encoding source : Text) (octets : Bytes)
    (missing : Text) :
    spelledBy codec? encoding source octets ≠ .error (.unreadable (.notFound missing)) := by
  intro failed
  cases codec? with
  | none =>
      rw [spelledBy] at failed
      split at failed
      · cases failed
      · split at failed <;> cases failed
  | some codec =>
      rw [spelledBy] at failed
      cases decoded : codec.decode octets with
      | ok text =>
          rw [decoded] at failed
          cases failed
      | error failure =>
          rw [decoded] at failed
          cases failure <;> cases failed

theorem decodedBy_ne_notFound (codec? : Option Codec) (settings : Settings) (octets : Bytes)
    (source missing : Text) :
    decodedBy codec? settings octets source ≠ .error (.unreadable (.notFound missing)) := by
  intro failed
  unfold decodedBy at failed
  split at failed
  · cases failed
  · cases spelled : spelledBy codec? settings.encoding source octets with
    | ok text =>
        rw [spelled] at failed
        cases failed
    | error fault =>
        rw [spelled] at failed
        obtain rfl := Except.error.inj failed
        exact spelledBy_ne_notFound _ _ _ _ _ spelled

/-- Only the path that is to be read is reported missing. -/
theorem path_of_notFound {settings : Settings} {supply : Supply} {path missing : Text}
    (failed : read settings supply path = .error (.unreadable (.notFound missing))) :
    missing = path := by
  unfold read readBy fetch at failed
  by_cases isStandard : path = standardPath
  · rw [if_pos isStandard, fetchStandard] at failed
    split at failed
    · exact absurd failed (decodedBy_ne_notFound _ _ _ _ _)
    · rename_i fetched
      split at fetched
      · cases fetched
        cases failed
      · cases fetched
  · rw [if_neg isStandard] at failed
    cases fetched : fetchFile settings.limit supply path with
    | ok octets =>
        rw [fetched] at failed
        exact absurd failed (decodedBy_ne_notFound _ _ _ _ _)
    | error fault =>
        rw [fetched] at failed
        obtain rfl := Except.error.inj failed
        exact fetchFile_notFound fetched

end DocScan.Input

namespace DocScan.Command

open Markup (Piece)

/-! ## The notice -/

/-- The tag that the markup begins with and the one that it ends with take effect, and no other. -/
def Framed (opening closing markup : Text) : Prop :=
  ∃ inner slashes,
    Markup.pieces markup = .tag 0 opening :: (inner ++ [.tag slashes closing]) ∧
      (∀ piece ∈ inner, piece.isLive = false) ∧ slashes % 2 = 0

section

variable {opening closing words front : Text}

theorem pieces_frame (opens : Markup.IsTag opening) (closes : Markup.IsTag closing)
    (unopened : '[' ∉ words) (unslashed : '\\' ∉ words) (ends : Markup.Unslashed front)
    (slashes : Nat) :
    Markup.pieces (opening ++
        (words ++ (Markup.escape (front ++ List.replicate slashes '\\') ++ closing))) =
      .tag 0 opening :: (words.map Piece.char ++ (Markup.pieces front).map Piece.quoted ++
        [.tag (Markup.closing slashes) closing]) := by
  have escaped := Markup.pieces_escape_append ends slashes (closes.shut [])
  rw [Markup.piecesAfter_tag _ closes, List.append_nil, Markup.piecesAfter] at escaped
  rw [Markup.pieces, Markup.piecesAfter_tag 0 opens, ← Markup.pieces,
    Markup.pieces_plain_append unopened unslashed, escaped, List.append_assoc]
  rfl

theorem not_isLive_inner {piece : Piece}
    (member : piece ∈ words.map Piece.char ++ (Markup.pieces front).map Piece.quoted) :
    piece.isLive = false := by
  rcases List.mem_append.mp member with plain | tagged
  · obtain ⟨c, -, rfl⟩ := List.mem_map.mp plain
    rfl
  · obtain ⟨piece, -, rfl⟩ := List.mem_map.mp tagged
    exact Markup.not_isLive_quoted piece

theorem isLive_tag (slashes : Nat) (body : Text) :
    (Piece.tag slashes body).isLive = decide (slashes % 2 = 0) := rfl

theorem filter_isLive_frame (opening words front : Text) (last : Piece) :
    (Piece.tag 0 opening :: (words.map Piece.char ++ (Markup.pieces front).map Piece.quoted ++
        [last])).filter Piece.isLive =
      .tag 0 opening :: [last].filter Piece.isLive := by
  have inner : List.filter Piece.isLive
      (words.map Piece.char ++ (Markup.pieces front).map Piece.quoted) = [] :=
    List.filter_eq_nil_iff.mpr fun piece member => by simp [not_isLive_inner member]
  rw [List.filter_cons_of_pos (isLive_tag 0 opening), List.filter_append, inner, List.nil_append]

end

theorem isTag_red : Markup.IsTag "[red]".toList :=
  .intro 'r' "ed".toList (by decide) (by decide) (by decide)

theorem isTag_notRed : Markup.IsTag "[/red]".toList :=
  .intro '/' "red".toList (by decide) (by decide) (by decide)

theorem styled_append (style front inner : Text) :
    styled style (front ++ inner) =
      ('[' :: style ++ ']' :: front) ++ inner ++ ('[' :: '/' :: style ++ [']']) := by
  simp [styled]

theorem unreadableNotice_eq (reason : Input.Unreadable) :
    unreadableNotice reason =
      "[red]✗ ".toList ++ Markup.escape reason.message ++ "[/red]".toList :=
  styled_append red _ _

theorem pieces_unreadableNotice {reason : Input.Unreadable} {front : Text} {slashes : Nat}
    (message : reason.message = front ++ List.replicate slashes '\\')
    (ends : Markup.Unslashed front) :
    Markup.pieces (unreadableNotice reason) =
      .tag 0 "[red]".toList :: ("✗ ".toList.map Piece.char ++
        (Markup.pieces front).map Piece.quoted ++
          [.tag (Markup.closing slashes) "[/red]".toList]) := by
  have framed := pieces_frame isTag_red isTag_notRed (by decide : '[' ∉ "✗ ".toList)
    (by decide : '\\' ∉ "✗ ".toList) ends slashes
  rw [unreadableNotice_eq, message, List.append_assoc]
  exact framed

theorem framed_iff_closing {reason : Input.Unreadable} {front : Text} {slashes : Nat}
    (message : reason.message = front ++ List.replicate slashes '\\')
    (ends : Markup.Unslashed front) :
    Framed "[red]".toList "[/red]".toList (unreadableNotice reason) ↔
      Markup.closing slashes % 2 = 0 := by
  rw [Framed, pieces_unreadableNotice message ends]
  constructor
  · rintro ⟨inner, trailing, cut, -, even⟩
    obtain ⟨-, last⟩ := List.append_inj' (List.cons.inj cut).2 rfl
    obtain ⟨same, -⟩ := Piece.tag.inj (List.singleton_inj.mp last)
    rwa [same]
  · exact fun even => ⟨_, _, rfl, fun piece => not_isLive_inner, even⟩

/-- The backslashes at the end keep a tag behind the text from taking effect once it is escaped. -/
def Unbalanced (text : Text) : Prop :=
  Markup.trailingSlashes text % 2 = 1 ∧ 1 < Markup.trailingSlashes text

instance (text : Text) : Decidable (Unbalanced text) := inferInstanceAs (Decidable (_ ∧ _))

theorem framed_unreadableNotice_iff (reason : Input.Unreadable) :
    Framed "[red]".toList "[/red]".toList (unreadableNotice reason) ↔
      ¬ Unbalanced reason.message := by
  obtain ⟨front, slashes, message, ends⟩ := Markup.exists_trailing reason.message
  rw [framed_iff_closing message ends, Unbalanced, message, Markup.trailingSlashes_eq ends,
    Markup.closing]
  split <;> omega

theorem liveTags_of_not_framed {reason : Input.Unreadable}
    (broken : ¬ Framed "[red]".toList "[/red]".toList (unreadableNotice reason)) :
    Markup.liveTags (unreadableNotice reason) = [.tag 0 "[red]".toList] := by
  obtain ⟨front, slashes, message, ends⟩ := Markup.exists_trailing reason.message
  rw [framed_iff_closing message ends] at broken
  have behind : (Piece.tag (Markup.closing slashes) "[/red]".toList).isLive = false := by
    rw [isLive_tag, decide_eq_false broken]
  rw [Markup.liveTags, pieces_unreadableNotice message ends, filter_isLive_frame,
    List.filter_singleton, behind]
  rfl

theorem unbalanced_message_iff {settings : Settings} {supply : Input.Supply} {path : Text}
    {reason : Input.Unreadable}
    (failed : Input.read settings supply path = .error (.unreadable reason)) :
    Unbalanced reason.message ↔ reason = .notFound path ∧ Unbalanced path := by
  by_cases absent : ∃ missing, reason = .notFound missing
  · obtain ⟨missing, rfl⟩ := absent
    obtain rfl := Input.path_of_notFound failed
    rw [Unbalanced, Input.trailingSlashes_message_notFound, eq_self_iff_true, true_and]
    rfl
  · have present (missing : Text) : reason ≠ .notFound missing := fun same =>
      absent ⟨missing, same⟩
    rw [Unbalanced, Input.trailingSlashes_message present]
    constructor
    · rintro ⟨odd, -⟩
      cases odd
    · rintro ⟨same, -⟩
      exact absurd same (present path)

/-- An unreadable input is reported in a notice in which the tag in front and the one at the end
take effect and no other does, whatever the reason, but for a missing path that ends with an odd
number of backslashes greater than one: there the style is opened and not closed. -/
theorem framed_notice {settings : Settings} {supply : Input.Supply} {path : Text}
    {reason : Input.Unreadable}
    (failed : Input.read settings supply path = .error (.unreadable reason)) {request : Request}
    (reads : request.path? = some path) :
    ∃ notice, (request.report (.ok settings) supply).outputs = [.marked notice] ∧
      notice = "[red]✗ ".toList ++ Markup.escape reason.message ++ "[/red]".toList ∧
      (Framed "[red]".toList "[/red]".toList notice ↔
        ¬ (reason = .notFound path ∧ Unbalanced path)) ∧
      (reason = .notFound path ∧ Unbalanced path →
        Markup.liveTags notice = [.tag 0 "[red]".toList]) := by
  obtain ⟨name, reported⟩ := report_of_error reads failed
  have framed : Framed "[red]".toList "[/red]".toList (unreadableNotice reason) ↔
      ¬ (reason = .notFound path ∧ Unbalanced path) := by
    rw [framed_unreadableNotice_iff, unbalanced_message_iff failed]
  refine ⟨unreadableNotice reason, ?_, ?_, framed, fun broken => ?_⟩
  · rw [reported]
    rfl
  · exact unreadableNotice_eq reason
  · exact liveTags_of_not_framed fun stands => framed.mp stands broken

/-- A missing path that looks like the closing tag and ends with a backslash. -/
def closingPath : Text := "[/red]\\".toList

theorem framed_notice_closingPath :
    Input.read {} {} closingPath = .error (.unreadable (.notFound closingPath)) ∧
      (Request.describe closingPath ['x'] false).path? = some closingPath ∧
      ∃ notice, ((Request.describe closingPath ['x'] false).report (.ok {}) {}).outputs =
          [.marked notice] ∧
        Framed "[red]".toList "[/red]".toList notice := by
  have missing : Input.read {} {} closingPath = .error (.unreadable (.notFound closingPath)) := rfl
  obtain ⟨notice, shown, -, framed, -⟩ := framed_notice missing
    (rfl : (Request.describe closingPath ['x'] false).path? = some closingPath)
  have balanced : ¬ Unbalanced closingPath := by decide +kernel
  exact ⟨missing, rfl, notice, shown, framed.mpr fun both => balanced both.2⟩

def slashedPath : Text := "a\\\\\\".toList

/-- The tag that closes the style need not take effect. -/
theorem not_framed_slashedPath :
    Input.read {} {} slashedPath = .error (.unreadable (.notFound slashedPath)) ∧
      ∃ notice, ((Request.describe slashedPath ['x'] false).report (.ok {}) {}).outputs =
          [.marked notice] ∧
        notice = "[red]✗ ".toList ++
          Markup.escape (Input.Unreadable.notFound slashedPath).message ++ "[/red]".toList ∧
        ¬ Framed "[red]".toList "[/red]".toList notice ∧
        Markup.liveTags notice = [.tag 0 "[red]".toList] := by
  have unbalanced : Unbalanced (Input.Unreadable.notFound slashedPath).message := by decide +kernel
  have broken : ¬ Framed "[red]".toList "[/red]".toList
      (unreadableNotice (.notFound slashedPath)) :=
    fun framed => (framed_unreadableNotice_iff _).mp framed unbalanced
  exact ⟨rfl, _, rfl, unreadableNotice_eq _, broken, liveTags_of_not_framed broken⟩

end DocScan.Command
