import DocScan.Proofs.Component.Layout

/-!
# Reading a component document line by line

What is found on a property is told by one line: the first that, trimmed, begins with the quoted
name and a colon. The rules below say what that line tells, for every text and every name, without
saying how it is searched.
-/

namespace DocScan.Component
open Text (OneLine quoted FirstCut Unquoted)

/-! ## The rules -/

/-- Trimmed, the line begins with the quoted name and a colon. -/
def Names (name line : Text) : Prop := quoted name ++ [':'] <+: Text.trim line

instance (name line : Text) : Decidable (Names name line) :=
  inferInstanceAs (Decidable (quoted name ++ [':'] <+: Text.trim line))

/-- What a trimmed line tells on the property with that name, and what is reported on it. -/
inductive LineTells (name line : Text) : Option Text → List Log.Event → Prop
  | undescribed (absent : ¬ "\"description\": \"".toList <:+: line) :
      LineTells name line none
        [place.debug ("Property ".toList ++ Text.literal name ++ " has no description".toList)]
  | unterminated (front rest : Text)
      (marked : FirstCut "\"description\": \"".toList line front rest) (unclosed : '"' ∉ rest) :
      LineTells name line none
        [place.debug ("Description of ".toList ++ Text.literal name ++ " is not terminated".toList)]
  | described (front text tail bare : Text)
      (marked : FirstCut "\"description\": \"".toList line front (text ++ '"' :: tail))
      (closed : '"' ∉ tail) (unquoted : Unquoted text bare) :
      LineTells name line (some bare) []

/-- What some lines tell on a property, and what is reported: the first that names it decides. -/
inductive Reading (name : Text) (lines : List Text) : Option Text → List Log.Event → Prop
  | unnamed (strangers : ∀ line ∈ lines, ¬ Names name line) : Reading name lines none []
  | named (before : List Text) (line : Text) (after : List Text) (answer : Option Text)
      (log : List Log.Event) (cut : lines = before ++ line :: after)
      (strangers : ∀ other ∈ before, ¬ Names name other) (names : Names name line)
      (tells : LineTells name (Text.trim line) answer log) : Reading name lines answer log

/-! ## The line of a property -/

theorem isPrefixOf_trim_iff (name line : Text) :
    (nameMark name).isPrefixOf (Text.trim line) = true ↔ Names name line := by
  rw [List.isPrefixOf_iff_prefix, nameMark_eq, Names]

theorem lineTells_findingOn (name line : Text) :
    LineTells name line (findingOn line).description? ((findingOn line).events name) := by
  cases marked : Text.after descriptionMark line with
  | none =>
      have absent := (Text.after_eq_none_iff descriptionMark line).mp marked
      rw [findingOn, marked]
      exact .undescribed absent
  | some rest =>
      obtain ⟨front, first⟩ := (Text.after_eq_some_iff descriptionMark line rest).mp marked
      cases closed : Text.beforeLast '"' rest with
      | none =>
          have unclosed := (Text.beforeLast_eq_none_iff '"' rest).mp closed
          simp only [findingOn, marked, closed]
          exact .unterminated front rest first unclosed
      | some text =>
          obtain ⟨tail, rfl, free⟩ := (Text.beforeLast_eq_some_iff '"' rest text).mp closed
          simp only [findingOn, marked, closed]
          exact .described front text tail _ first free (Text.unquoted_unwrap text)

theorem findingOn_of_lineTells (name line : Text) (answer : Option Text) (log : List Log.Event)
    (tells : LineTells name line answer log) :
    (findingOn line).description? = answer ∧ (findingOn line).events name = log := by
  cases tells with
  | undescribed absent =>
      have unmarked := (Text.after_eq_none_iff descriptionMark line).mpr absent
      rw [findingOn, unmarked]
      exact ⟨rfl, rfl⟩
  | unterminated front rest marked unclosed =>
      have unfinished := (Text.beforeLast_eq_none_iff '"' rest).mpr unclosed
      have found := (Text.after_eq_some_iff descriptionMark line rest).mpr ⟨front, marked⟩
      simp only [findingOn, found, unfinished]
      exact ⟨rfl, rfl⟩
  | described front text tail bare marked closed unquoted =>
      have found := (Text.after_eq_some_iff descriptionMark line _).mpr ⟨front, marked⟩
      simp only [findingOn, found, Text.beforeLast_append '"' text tail closed,
        Text.unwrap_of_unquoted text bare unquoted]
      exact ⟨rfl, rfl⟩

/-! ## The first line that names a property -/

theorem findAmong_of_strangers (name : Text) (lines : List Text)
    (strangers : ∀ line ∈ lines, ¬ Names name line) : findAmong name lines = .unnamed := by
  induction lines with
  | nil => rfl
  | cons line lines ih =>
      have skipped := mt (isPrefixOf_trim_iff name line).mp (strangers line (by simp))
      rw [findAmong, if_neg skipped, ih fun later member => strangers later (by simp [member])]

theorem findAmong_of_names (name line : Text) (before after : List Text)
    (strangers : ∀ other ∈ before, ¬ Names name other) (names : Names name line) :
    findAmong name (before ++ line :: after) = findingOn (Text.trim line) := by
  apply describe_eq_findingOn name line before after
  · intro other member
    have skipped := mt (isPrefixOf_trim_iff name other).mp (strangers other member)
    rwa [Bool.not_eq_true] at skipped
  · exact (isPrefixOf_trim_iff name line).mpr names

theorem Reading.cons (name line : Text) (lines : List Text) (answer : Option Text)
    (log : List Log.Event) (stranger : ¬ Names name line)
    (reading : Reading name lines answer log) :
    Reading name (line :: lines) answer log := by
  cases reading with
  | unnamed strangers => exact .unnamed (List.forall_mem_cons.mpr ⟨stranger, strangers⟩)
  | named before found after _ _ cut strangers names tells =>
      apply Reading.named (line :: before) found after answer log
      · rw [cut, List.cons_append]
      · exact List.forall_mem_cons.mpr ⟨stranger, strangers⟩
      · exact names
      · exact tells

theorem reading_findAmong (name : Text) (lines : List Text) :
    Reading name lines (findAmong name lines).description?
      ((findAmong name lines).events name) := by
  -- A line that does not name the property is passed over by the search and by the rules alike.
  induction lines with
  | nil => exact .unnamed fun line member => nomatch member
  | cons line lines ih =>
      by_cases names : Names name line
      · rw [findAmong, if_pos ((isPrefixOf_trim_iff name line).mpr names)]
        exact .named [] line lines _ _ rfl (fun other member => nomatch member) names
          (lineTells_findingOn name (Text.trim line))
      · rw [findAmong, if_neg (mt (isPrefixOf_trim_iff name line).mp names)]
        exact Reading.cons name line lines _ _ names ih

theorem reading_iff_findAmong (name : Text) (lines : List Text) (answer : Option Text)
    (log : List Log.Event) :
    Reading name lines answer log ↔
      (findAmong name lines).description? = answer ∧ (findAmong name lines).events name = log := by
  constructor
  · intro reading
    cases reading with
    | unnamed strangers =>
        rw [findAmong_of_strangers name lines strangers]
        exact ⟨rfl, rfl⟩
    | named before line after _ _ cut strangers names tells =>
        rw [cut, findAmong_of_names name line before after strangers names]
        exact findingOn_of_lineTells name (Text.trim line) answer log tells
  · rintro ⟨rfl, rfl⟩
    exact reading_findAmong name lines

/-! ## Documents -/

/-- The lines of a document. An absent document has none. -/
def linesOf (content : Option Text) : List Text := content.elim [] Text.lines

theorem find_eq_findAmong (content : Option Text) (name : Text) :
    find content name = findAmong name (linesOf content) := by
  cases content with
  | none => rfl
  | some content => rfl

/-- The line stands in a new document, with other lines around it. -/
def around (earlier : List OneLine) (line : Text) (later : List OneLine) : Text :=
  Text.join ['\n'] (earlier.map Subtype.val ++ line :: later.map Subtype.val)

theorem lines_around (earlier later : List OneLine) (line : Text) (oneLine : '\n' ∉ line) :
    Text.lines (around earlier line later) =
      earlier.map Subtype.val ++ line :: later.map Subtype.val := by
  apply Text.lines_join
  · simp
  · intro piece member
    rcases List.mem_append.mp member with front | back
    · obtain ⟨other, -, rfl⟩ := List.mem_map.mp front
      exact other.property
    · rcases List.mem_cons.mp back with rfl | back
      · exact oneLine
      · obtain ⟨other, -, rfl⟩ := List.mem_map.mp back
        exact other.property

theorem oneLine_of_mem_linesOf (content : Option Text) (line : Text)
    (member : line ∈ linesOf content) : '\n' ∉ line := by
  cases content with
  | none => cases member
  | some content => exact Text.oneLine_of_mem_lines content line member

theorem find_around (content : Option Text) (name line : Text) (before after : List Text)
    (cut : linesOf content = before ++ line :: after)
    (strangers : ∀ other ∈ before, ¬ Names name other) (names : Names name line)
    (earlier later : List OneLine) (newStrangers : ∀ other ∈ earlier, ¬ Names name other.val) :
    find (some (around earlier line later)) name = find content name := by
  have oneLine : '\n' ∉ line := oneLine_of_mem_linesOf content line (by simp [cut])
  have others : ∀ other ∈ earlier.map Subtype.val, ¬ Names name other := by
    intro other member
    obtain ⟨source, inEarlier, rfl⟩ := List.mem_map.mp member
    exact newStrangers source inEarlier
  rw [find, lines_around earlier later line oneLine, findAmong_of_names name line _ _ others names,
    find_eq_findAmong, cut, findAmong_of_names name line before after strangers names]

theorem description?_iff_reading (content : Option Text) (name : Text) :
    (∀ answer log,
      (description? content name = answer ∧ (find content name).events name = log) ↔
        Reading name (linesOf content) answer log) ∧
    ∀ before line after, linesOf content = before ++ line :: after →
      (∀ other ∈ before, ¬ Names name other) → Names name line →
      ∀ earlier later : List OneLine, (∀ other ∈ earlier, ¬ Names name other.val) →
        description? (some (around earlier line later)) name = description? content name ∧
          (find (some (around earlier line later)) name).events name =
            (find content name).events name := by
  constructor
  · intro answer log
    rw [reading_iff_findAmong, description?, find_eq_findAmong]
  · intro before line after cut strangers names earlier later newStrangers
    have same := find_around content name line before after cut strangers names earlier later
      newStrangers
    rw [description?, description?, same]
    exact ⟨rfl, rfl⟩

/-- A name with a quote in it. The word of the mark is also a value, and the description is wrapped
and holds a quote. -/
def ambiguousLine : Text :=
  " \"a\"b\": \x7b \"kind\": \"description\", \"description\": \" 'x\" ' \"\r".toList

def ambiguousDocument : Text :=
  Text.join ['\n'] ["\x7b".toList, ambiguousLine, "\"a\"b\": \"late\"".toList]

theorem description?_iff_reading_ambiguous :
    linesOf (some ambiguousDocument) =
        ["\x7b".toList] ++ ambiguousLine :: ["\"a\"b\": \"late\"".toList] ∧
      (∀ other ∈ ["\x7b".toList], ¬ Names "a\"b".toList other) ∧
      Names "a\"b".toList ambiguousLine ∧
      Reading "a\"b".toList (linesOf (some ambiguousDocument)) (some "x\" ".toList) [] ∧
      description? (some (around [] ambiguousLine [])) "a\"b".toList = some "x\" ".toList := by
  have cut : linesOf (some ambiguousDocument) =
      ["\x7b".toList] ++ ambiguousLine :: ["\"a\"b\": \"late\"".toList] := by decide +kernel
  have strangers : ∀ other ∈ ["\x7b".toList], ¬ Names "a\"b".toList other := by decide +kernel
  have names : Names "a\"b".toList ambiguousLine := by decide +kernel
  have answer : description? (some ambiguousDocument) "a\"b".toList = some "x\" ".toList := by
    decide +kernel
  have silent : (find (some ambiguousDocument) "a\"b".toList).events "a\"b".toList = [] := by
    decide +kernel
  obtain ⟨rules, locality⟩ := description?_iff_reading (some ambiguousDocument) "a\"b".toList
  have same := locality _ _ _ cut strangers names [] [] fun other member => nomatch member
  exact ⟨cut, strangers, names, (rules _ _).mp ⟨answer, silent⟩, same.1.trans answer⟩

end DocScan.Component
