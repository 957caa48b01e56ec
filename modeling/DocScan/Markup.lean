import DocScan.Text.Basic

/-!
# Console markup

In markup a tag such as `[red]` or `[/red]` switches a style. Backslashes in front of a tag are part
of it: each pair stands for one backslash, and a single one left over makes the tag literal. A text
that must show as it is has every tag escaped.
-/

namespace DocScan.Markup

/-! ## Tags -/

def opensTag (c : Char) : Bool := c.isLower || c == '#' || c == '/' || c == '@'

/-- The rest of a tag up to its closing bracket, and what follows. Another opening bracket comes too
early. -/
def tagRest : Text → Option (Text × Text)
  | [] => none
  | c :: rest =>
    if c = ']' then some ([']'], rest)
    else if c = '[' then none
    else (tagRest rest).map fun (body, tail) => (c :: body, tail)

/-- The tag at the start of a text, with its brackets, and what follows. -/
def tag? : Text → Option (Text × Text)
  | '[' :: c :: rest =>
    if opensTag c then (tagRest rest).map fun (body, tail) => ('[' :: c :: body, tail) else none
  | _ => none

theorem tagRest_append (text body tail : Text) (found : tagRest text = some (body, tail)) :
    text = body ++ tail := by
  induction text generalizing body with
  | nil => simp [tagRest] at found
  | cons c rest ih =>
      simp only [tagRest] at found
      split at found
      · rename_i closes
        simp only [Option.some.injEq, Prod.mk.injEq] at found
        obtain ⟨rfl, rfl⟩ := found
        simp [closes]
      · split at found
        · simp at found
        · obtain ⟨⟨inner, after⟩, innerFound, same⟩ := Option.map_eq_some_iff.mp found
          simp only [Prod.mk.injEq] at same
          obtain ⟨rfl, rfl⟩ := same
          simp [ih inner innerFound]

theorem tag?_append (text body tail : Text) (found : tag? text = some (body, tail)) :
    text = body ++ tail ∧ 0 < body.length := by
  unfold tag? at found
  split at found
  · rename_i c rest
    split at found
    · obtain ⟨⟨inner, after⟩, innerFound, same⟩ := Option.map_eq_some_iff.mp found
      simp only [Prod.mk.injEq] at same
      obtain ⟨rfl, rfl⟩ := same
      simp [tagRest_append rest inner after innerFound]
    · simp at found
  · simp at found

/-! ## Pieces -/

/-- A character by itself, or a tag with the number of backslashes in front of it. -/
inductive Piece where
  | char (c : Char)
  | tag (slashes : Nat) (body : Text)
deriving DecidableEq, Repr

/-- The pieces of a text behind some backslashes that have not been given to a piece yet. -/
def piecesAfter (slashes : Nat) (text : Text) : List Piece :=
  match text with
  | [] => List.replicate slashes (.char '\\')
  | c :: rest =>
    if c = '\\' then piecesAfter (slashes + 1) rest
    else match _ : tag? (c :: rest) with
      | some (body, tail) => .tag slashes body :: piecesAfter 0 tail
      | none => List.replicate slashes (.char '\\') ++ .char c :: piecesAfter 0 rest
termination_by text.length
decreasing_by
  · simp
  · obtain ⟨split, positive⟩ := tag?_append (c :: rest) body tail ‹_›
    have lengths := congrArg List.length split
    simp only [List.length_append, List.length_cons] at lengths ⊢
    omega
  · simp

def pieces (text : Text) : List Piece := piecesAfter 0 text

def Piece.text : Piece → Text
  | .char c => [c]
  | .tag slashes body => List.replicate slashes '\\' ++ body

/-- A tag that takes effect: the backslashes in front of it pair off. -/
def Piece.isLive : Piece → Bool
  | .char _ => false
  | .tag slashes _ => slashes % 2 == 0

def liveTags (text : Text) : List Piece := (pieces text).filter Piece.isLive

theorem text_piecesAfter (slashes : Nat) (text : Text) :
    (piecesAfter slashes text).flatMap Piece.text = List.replicate slashes '\\' ++ text := by
  fun_induction piecesAfter slashes text with
  | case1 slashes => simp [List.flatMap_replicate, Piece.text]
  | case2 slashes rest ih => simp [ih, List.replicate_succ']
  | case3 slashes c rest _ body tail found ih =>
      obtain ⟨split, -⟩ := tag?_append _ _ _ found
      simp [Piece.text, ih, split]
  | case4 slashes c rest _ _ ih => simp [List.flatMap_replicate, Piece.text, ih]

theorem text_pieces (text : Text) : (pieces text).flatMap Piece.text = text := by
  simpa [pieces] using text_piecesAfter 0 text

/-! ## Escaping -/

/-- A piece in escaped form: the backslashes of a tag are doubled and one more makes it literal. -/
def Piece.escaped : Piece → Text
  | .char c => [c]
  | .tag slashes body => List.replicate (2 * slashes + 1) '\\' ++ body

def endsInSingleSlash (text : Text) : Bool :=
  ['\\'].isSuffixOf text && !(['\\', '\\'].isSuffixOf text)

/-- The markup that shows a text as it is. A single backslash at the end is doubled, so that it
cannot take effect on what is written behind the text. -/
def escape (text : Text) : Text :=
  let escaped := (pieces text).flatMap Piece.escaped
  if endsInSingleSlash escaped then escaped ++ ['\\'] else escaped

/-- A markup as it shows without styles: tags that take effect vanish, literal ones stand alone. -/
def plain (markup : Text) : Text :=
  (pieces markup).flatMap fun piece =>
    match piece with
    | .char c => [c]
    | .tag slashes body =>
      List.replicate (slashes / 2) '\\' ++ if slashes % 2 = 0 then [] else body

end DocScan.Markup
