import DocScan.Settings.Environment
import DocScan.Text.Blank

/-!
# Environment files

An environment file has one binding a line: a name and, after an equals sign, a value, which may
stand in quotes and then run over several lines. Blank lines and comments mean nothing; a line that
is no binding is skipped. A name without an equals sign is bound to nothing.
-/

namespace DocScan.EnvFile

structure Binding where
  name : Text
  value : Option Text
deriving DecidableEq, Repr

/-! ## Lines -/

/-- The text without the blanks at its start, as far as the end of the line. -/
def dropInline (text : Text) : Text := text.dropWhile fun c => Text.isBlank c && c != '\n'

def nextLine (text : Text) : Text := (text.dropWhile (· != '\n')).drop 1

/-- What follows a comment, or the text if there is none. -/
def dropComment (text : Text) : Text :=
  match dropInline text with
  | '#' :: rest => rest.dropWhile (· != '\n')
  | _ => text

/-- What follows the end of the line, if only blanks stand in front of it. -/
def endOfLine? (text : Text) : Option Text :=
  match dropInline text with
  | [] => some []
  | c :: rest => if c = '\n' then some rest else none

theorem length_dropWhile_le (keep : Char → Bool) (text : Text) :
    (text.dropWhile keep).length ≤ text.length :=
  (List.dropWhile_sublist keep).length_le

theorem nextLine_lt (text whole : Text) (part : text.length ≤ whole.length)
    (nonempty : whole ≠ []) : (nextLine text).length < whole.length := by
  have shorter := length_dropWhile_le (· != '\n') text
  have positive : 0 < whole.length := List.length_pos_iff.mpr nonempty
  simp only [nextLine, List.length_drop]
  omega

theorem dropComment_le (text : Text) : (dropComment text).length ≤ text.length := by
  unfold dropComment
  split
  · rename_i rest start
    have shorter := length_dropWhile_le (· != '\n') rest
    have whole := length_dropWhile_le (fun c => Text.isBlank c && c != '\n') text
    rw [show text.dropWhile _ = '#' :: rest from start] at whole
    simp only [List.length_cons] at whole
    omega
  · exact Nat.le_refl _

theorem endOfLine?_le (text rest : Text) (ended : endOfLine? text = some rest) :
    rest.length ≤ text.length := by
  have whole := length_dropWhile_le (fun c => Text.isBlank c && c != '\n') text
  unfold endOfLine? at ended
  split at ended
  · simp_all
  · rename_i c tail start
    rw [show text.dropWhile _ = c :: tail from start] at whole
    split at ended
    · obtain rfl := Option.some.inj ended
      simp only [List.length_cons] at whole
      omega
    · simp at ended

/-! ## Names -/

def isNameChar (c : Char) : Bool := c != '=' && c != '#' && !Text.isBlank c

/-- What follows the word that may introduce a binding, with the blanks behind it. -/
def dropExport (text : Text) : Text :=
  if "export".toList.isPrefixOf text then
    let rest := dropInline (text.drop 6)
    if rest.length < (text.drop 6).length then rest else text
  else text

def name? (text : Text) : Option (Text × Text) :=
  match text with
  | '\'' :: rest =>
    let name := rest.takeWhile (· != '\'')
    match rest.dropWhile (· != '\'') with
    | _ :: tail => if name = [] then none else some (name, tail)
    | [] => none
  | _ =>
    let name := text.takeWhile isNameChar
    if name = [] then none else some (name, text.dropWhile isNameChar)

theorem dropExport_le (text : Text) : (dropExport text).length ≤ text.length := by
  unfold dropExport
  dsimp only
  split
  · split
    · have shorter := length_dropWhile_le (fun c => Text.isBlank c && c != '\n') (text.drop 6)
      simp only [List.length_drop] at shorter
      simp only [dropInline]
      omega
    · exact Nat.le_refl _
  · exact Nat.le_refl _

theorem length_dropWhile_lt (keep : Char → Bool) (text : Text) (kept : text.takeWhile keep ≠ []) :
    (text.dropWhile keep).length < text.length := by
  have parts := congrArg List.length (List.takeWhile_append_dropWhile (p := keep) (l := text))
  have positive : 0 < (text.takeWhile keep).length := List.length_pos_iff.mpr kept
  simp only [List.length_append] at parts
  omega

theorem name?_lt (text name rest : Text) (found : name? text = some (name, rest)) :
    rest.length < text.length := by
  unfold name? at found
  split at found
  · rename_i inner
    dsimp only at found
    split at found
    · rename_i c tail start
      have whole := length_dropWhile_le (· != '\'') inner
      rw [start] at whole
      split at found
      · simp at found
      · obtain ⟨-, rfl⟩ := Prod.mk.inj (Option.some.inj found)
        simp only [List.length_cons] at whole ⊢
        omega
    · simp at found
  · dsimp only at found
    split at found
    · simp at found
    · rename_i kept
      obtain ⟨-, rfl⟩ := Prod.mk.inj (Option.some.inj found)
      exact length_dropWhile_lt isNameChar text kept

/-! ## Values -/

/-- The text up to the closing quote, and what follows it. The character behind a backslash belongs
to the backslash and closes nothing. -/
def closing (quote : Char) : Text → Option (Text × Text)
  | [] => none
  | '\\' :: c :: rest => (closing quote rest).map fun (body, tail) => ('\\' :: c :: body, tail)
  | c :: rest =>
    if c = quote then some ([], rest)
    else (closing quote rest).map fun (body, tail) => (c :: body, tail)

def singleEscape? (c : Char) : Option Char := if c = '\\' ∨ c = '\'' then some c else none

def doubleEscape? (c : Char) : Option Char :=
  match c with
  | '\\' | '\'' | '"' => some c
  | 'a' => some (Char.ofNat 7)
  | 'b' => some (Char.ofNat 8)
  | 'f' => some (Char.ofNat 12)
  | 'n' => some '\n'
  | 'r' => some '\r'
  | 't' => some '\t'
  | 'v' => some (Char.ofNat 11)
  | _ => none

/-- A quoted value with its escapes resolved. A backslash that escapes nothing stays. -/
def unescape (escape? : Char → Option Char) : Text → Text
  | '\\' :: c :: rest =>
    match escape? c with
    | some meant => meant :: unescape escape? rest
    | none => '\\' :: unescape escape? (c :: rest)
  | c :: rest => c :: unescape escape? rest
  | [] => []

/-- A value that is not quoted ends at a number sign behind a blank. -/
def cutComment (afterBlank : Bool) : Text → Text
  | [] => []
  | c :: rest =>
    if c = '#' ∧ afterBlank then [] else c :: cutComment (Text.isBlank c) rest

/-- The value at the start of a text, and what follows it. An opening quote needs its partner. -/
def value? (text : Text) : Option (Text × Text) :=
  match text with
  | '\'' :: rest =>
    (closing '\'' rest).map fun (body, tail) => (unescape singleEscape? body, tail)
  | '"' :: rest =>
    (closing '"' rest).map fun (body, tail) => (unescape doubleEscape? body, tail)
  | _ =>
    let line := text.takeWhile (· != '\n')
    some (Text.trimRight (cutComment false line), text.dropWhile (· != '\n'))

theorem closing_le (quote : Char) (text : Text) (found : Text × Text)
    (closed : closing quote text = some found) : found.2.length ≤ text.length := by
  fun_induction closing quote text generalizing found with
  | case1 => simp at closed
  | case2 c rest ih =>
      obtain ⟨inner, innerClosed, rfl⟩ := Option.map_eq_some_iff.mp closed
      have shorter := ih inner innerClosed
      simp only [List.length_cons]
      omega
  | case3 rest =>
      obtain rfl := Option.some.inj closed
      simp
  | case4 c rest _ _ ih =>
      obtain ⟨inner, innerClosed, rfl⟩ := Option.map_eq_some_iff.mp closed
      have shorter := ih inner innerClosed
      simp only [List.length_cons]
      omega

theorem value?_le (text value rest : Text) (found : value? text = some (value, rest)) :
    rest.length ≤ text.length := by
  unfold value? at found
  split at found
  · obtain ⟨inner, innerClosed, same⟩ := Option.map_eq_some_iff.mp found
    obtain ⟨-, rfl⟩ := Prod.mk.inj same
    have shorter := closing_le _ _ inner innerClosed
    simp only [List.length_cons]
    omega
  · obtain ⟨inner, innerClosed, same⟩ := Option.map_eq_some_iff.mp found
    obtain ⟨-, rfl⟩ := Prod.mk.inj same
    have shorter := closing_le _ _ inner innerClosed
    simp only [List.length_cons]
    omega
  · obtain ⟨-, rfl⟩ := Prod.mk.inj (Option.some.inj found)
    exact length_dropWhile_le (· != '\n') text

/-- The value behind an equals sign. A comment in its place, behind a blank, leaves it empty. -/
def assignedValue? (text : Text) : Option (Text × Text) :=
  let start := dropInline text
  if start.head? = some '#' ∧ start.length < text.length then some ([], start) else value? start

/-- The value behind a name, with its equals sign. Without the sign there is none. The second part
is what follows, or where reading went wrong. -/
def assigned (text : Text) : Except Text (Option Text × Text) :=
  match text with
  | '=' :: rest =>
    match assignedValue? rest with
    | some (value, tail) => .ok (some value, tail)
    | none => .error (dropInline rest)
  | _ => .ok (none, text)

theorem assignedValue?_le (text value rest : Text)
    (found : assignedValue? text = some (value, rest)) : rest.length ≤ text.length := by
  have inline := length_dropWhile_le (fun c => Text.isBlank c && c != '\n') text
  unfold assignedValue? at found
  dsimp only at found
  split at found
  · obtain ⟨-, rfl⟩ := Prod.mk.inj (Option.some.inj found)
    exact inline
  · exact Nat.le_trans (value?_le _ _ _ found) inline

/-- The rest of a text behind a value, or where reading it went wrong. -/
def restOf : Except Text (Option Text × Text) → Text
  | .ok (_, rest) => rest
  | .error rest => rest

theorem assigned_le (text : Text) : (restOf (assigned text)).length ≤ text.length := by
  unfold assigned
  split
  · rename_i rest
    have inline := length_dropWhile_le (fun c => Text.isBlank c && c != '\n') rest
    split
    · rename_i value tail found
      have shorter := assignedValue?_le _ _ _ found
      simp only [restOf, List.length_cons]
      omega
    · simp only [restOf, dropInline, List.length_cons]
      omega
  · exact Nat.le_refl _

/-! ## Files -/

/-- The binding of the line at the start of a text, if it is one, and what follows the line. -/
def entry (text : Text) : Option Binding × Text :=
  let start := dropExport text
  if start.head? = some '#' then (none, nextLine start)
  else match name? start with
    | none => (none, nextLine start)
    | some (name, rest) =>
      match assigned (dropInline rest) with
      | .error rest => (none, nextLine rest)
      | .ok (value, rest) =>
        match endOfLine? (dropComment rest) with
        | none => (none, nextLine (dropComment rest))
        | some rest => (some { name, value }, rest)

theorem entry_length_lt (text : Text) (nonempty : text ≠ []) :
    (entry text).2.length < text.length := by
  have start := dropExport_le text
  unfold entry
  dsimp only
  split
  · exact nextLine_lt _ _ start nonempty
  · split
    · exact nextLine_lt _ _ start nonempty
    · rename_i name rest named
      have behindName := name?_lt _ _ _ named
      have inline := length_dropWhile_le (fun c => Text.isBlank c && c != '\n') rest
      have behindValue := assigned_le (dropInline rest)
      simp only [dropInline] at behindValue ⊢
      split
      · rename_i bad failed
        rw [failed] at behindValue
        simp only [restOf] at behindValue
        exact nextLine_lt _ _ (by omega) nonempty
      · rename_i value tail found
        rw [found] at behindValue
        simp only [restOf] at behindValue
        have behindComment := dropComment_le tail
        split
        · exact nextLine_lt _ _ (by omega) nonempty
        · rename_i more ended
          have behindLine := endOfLine?_le _ _ ended
          simp only
          omega

def bindingsOf (text : Text) : List Binding :=
  match _ : text.dropWhile Text.isBlank with
  | [] => []
  | c :: rest => (entry (c :: rest)).1.toList ++ bindingsOf (entry (c :: rest)).2
termination_by text.length
decreasing_by
  rename_i start
  have line := entry_length_lt (c :: rest) (by simp)
  have whole := length_dropWhile_le Text.isBlank text
  rw [start] at whole
  omega

def dropMark : Text → Text
  | c :: rest => if c = Char.ofNat 0xFEFF then rest else c :: rest
  | [] => []

def bindings (content : Text) : List Binding := bindingsOf (dropMark content)

/-! ## Interpolation -/

/-- A reference in a value: the name of a variable, and what stands for it if it is unknown. -/
structure Reference where
  name : Text
  fallback : Text
deriving DecidableEq, Repr

def reference? (text : Text) : Option (Reference × Text) :=
  let name := text.takeWhile fun c => c != '}' && c != ':'
  match text.dropWhile fun c => c != '}' && c != ':' with
  | '}' :: rest => some ({ name, fallback := [] }, rest)
  | ':' :: '-' :: rest =>
    match rest.dropWhile (· != '}') with
    | _ :: tail => some ({ name, fallback := rest.takeWhile (· != '}') }, tail)
    | [] => none
  | _ => none

theorem reference?_lt (text : Text) (found : Reference × Text)
    (closed : reference? text = some found) : found.2.length < text.length := by
  have whole := length_dropWhile_le (fun c => c != '}' && c != ':') text
  unfold reference? at closed
  dsimp only at closed
  split at closed
  · rename_i rest start
    obtain rfl := Option.some.inj closed
    rw [start] at whole
    simp only [List.length_cons] at whole ⊢
    omega
  · rename_i rest start
    rw [start] at whole
    have inner := length_dropWhile_le (· != '}') rest
    split at closed
    · rename_i c tail innerStart
      obtain rfl := Option.some.inj closed
      rw [innerStart] at inner
      simp only [List.length_cons] at whole inner ⊢
      omega
    · simp at closed
  · simp at closed

def referenceAt? : Text → Option (Reference × Text)
  | '$' :: '{' :: inner => reference? inner
  | _ => none

theorem referenceAt?_lt (text : Text) (found : Reference × Text)
    (closed : referenceAt? text = some found) : found.2.length < text.length := by
  unfold referenceAt? at closed
  split at closed
  · rename_i inner
    have shorter := reference?_lt inner found closed
    simp only [List.length_cons]
    omega
  · simp at closed

/-- A value with every reference replaced. What stands for a name is given by the caller; a name
that is bound to nothing is replaced by nothing. -/
def interpolate (known : Text → Option (Option Text)) (text : Text) : Text :=
  match text with
  | [] => []
  | c :: rest =>
    match _ : referenceAt? (c :: rest) with
    | some (reference, tail) =>
      ((known reference.name).getD (some reference.fallback)).getD [] ++ interpolate known tail
    | none => c :: interpolate known rest
termination_by text.length
decreasing_by
  · exact referenceAt?_lt (c :: rest) (reference, tail) ‹_›
  · simp

/-- Which values an interpolation prefers: those of the environment, or those bound earlier in the
file. -/
inductive Preference where
  | environment
  | file
deriving DecidableEq, Repr

def knownBy (preference : Preference) (environment : Environment)
    (earlier : List (Text × Option Text)) (name : Text) : Option (Option Text) :=
  let inEnvironment := (environment.get? name).map some
  match preference with
  | .environment => inEnvironment.or (earlier.lookup name)
  | .file => (earlier.lookup name).or inEnvironment

/-- The names that some bindings bind, each with its last value and at the place of its first
binding. -/
def resolve (preference : Preference) (environment : Environment) (bindings : List Binding) :
    List (Text × Option Text) :=
  bindings.foldl (fun earlier binding =>
    let value := binding.value.map (interpolate (knownBy preference environment earlier))
    Named.put binding.name value earlier) []

/-- The names that a file binds when it is read for its own sake. -/
def values (environment : Environment) (content : Text) : List (Text × Option Text) :=
  resolve .file environment (bindings content)

/-- The variables of a file that have a value and are not set yet. -/
def additions (environment : Environment) (content : Text) : List (Text × Text) :=
  (resolve .environment environment (bindings content)).filterMap fun (name, value) =>
    match value, environment.get? name with
    | some value, none => some (name, value)
    | _, _ => none

def extend (environment : Environment) (content : Text) :
    Except Environment.Fault Environment :=
  environment.assignAll (additions environment content)

end DocScan.EnvFile
