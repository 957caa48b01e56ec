import DocScan.Log.Event
import DocScan.Text.Literal
import DocScan.Text.Quoted
import DocScan.Text.Search

/-!
# Component documents

A component document has one property a line. The line of a property starts, after trimming, with
its quoted name and a colon; its description stands between the description marker and the last
quote of the line. Only the first line of a property counts.
-/

namespace DocScan.Component

inductive Finding where
  | unnamed
  | undescribed
  | unterminated
  | described (text : Text)
deriving DecidableEq, Repr

def nameMark (name : Text) : Text := '"' :: name ++ ['"', ':']

def descriptionMark : Text := "\"description\": \"".toList

def findingOn (line : Text) : Finding :=
  match Text.after descriptionMark line with
  | none => .undescribed
  | some rest =>
    match Text.beforeLast '"' rest with
    | none => .unterminated
    | some text => .described (Text.unwrap text)

/-- The finding on a property among some lines: the first one that names it decides. -/
def findAmong (name : Text) : List Text → Finding
  | [] => .unnamed
  | line :: rest =>
    if (nameMark name).isPrefixOf (Text.trim line) then findingOn (Text.trim line)
    else findAmong name rest

/-- The finding on a property of a document. An absent document names nothing. -/
def find (content : Option Text) (name : Text) : Finding :=
  match content with
  | none => .unnamed
  | some content => findAmong name (Text.lines content)

def Finding.description? : Finding → Option Text
  | .described text => some text
  | _ => none

def description? (content : Option Text) (name : Text) : Option Text :=
  (find content name).description?

theorem describe_eq_findingOn (name line : Text) (before after : List Text)
    (others : ∀ other ∈ before, (nameMark name).isPrefixOf (Text.trim other) = false)
    (named : (nameMark name).isPrefixOf (Text.trim line) = true) :
    findAmong name (before ++ line :: after) = findingOn (Text.trim line) := by
  induction before with
  | nil => simp [findAmong, named]
  | cons other before ih =>
      have skipped := others other (by simp)
      simp only [List.cons_append, findAmong, skipped, Bool.false_eq_true, if_false]
      exact ih fun line member => others line (by simp [member])

/-! ## Reports -/

def place : Log.Place :=
  { logger := "packages.extraction.parsers".toList
    module := "parsers".toList
    function := "extract_description".toList }

/-- The report on a property: only a line without a usable description is worth one. -/
def Finding.events (name : Text) : Finding → List Log.Event
  | .undescribed =>
    [place.debug ("Property ".toList ++ Text.literal name ++ " has no description".toList)]
  | .unterminated =>
    [place.debug ("Description of ".toList ++ Text.literal name ++ " is not terminated".toList)]
  | _ => []

end DocScan.Component
