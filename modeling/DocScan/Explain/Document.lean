import DocScan.Explain.Row
import DocScan.Log.Event
import DocScan.Text.Quoted

/-!
# Explain documents

An explain document has two header lines and then one option a line. An option line is read by
position: its first, third and fifth quoted tokens are the name, the value and the description, the
tokens between them are labels. Lines without a token carry no option.
-/

namespace DocScan.Explain

/-- The number of header lines: the opening brace and the line of the endpoint. -/
def headerLines : Nat := 2

def rowOf? (line : Text) : Option OptionRow :=
  match Text.quotedTokens line with
  | [] => none
  | name :: more => some { name, value := more[1]?, description := more[3]? }

/-- The lines of a document that may carry options. An absent document has none. -/
def optionLines (content : Option Text) : List Text :=
  match content with
  | none => []
  | some content => (Text.lines content).drop headerLines

def rows (content : Option Text) : List OptionRow := (optionLines content).filterMap rowOf?

theorem rows_filterMap (content : Text) :
    rows (some content) = ((Text.lines content).drop headerLines).filterMap rowOf? := rfl

theorem rowOf?_eq_none_iff (line : Text) : rowOf? line = none ↔ Text.quotedTokens line = [] := by
  cases tokens : Text.quotedTokens line <;> simp [rowOf?, tokens]

/-! ## Reports -/

def place : Log.Place :=
  { logger := "packages.extraction.parsers".toList
    module := "parsers".toList
    function := "extract_option_rows".toList }

def events (rows : List OptionRow) : List Log.Event :=
  [place.debug ("Parsed ".toList ++ Text.ofNat rows.length ++
    " option row(s) from explain JSON".toList)]

end DocScan.Explain
