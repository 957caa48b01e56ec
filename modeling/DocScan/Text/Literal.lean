import DocScan.Text.Printable

/-!
# Quoted literals

The literal of a text shows it in one line of printable characters between quotes: notices and log
messages name texts that way. Single quotes are used unless the text holds a single quote and no
double one.
-/

namespace DocScan.Text

def literalQuote (text : Text) : Char :=
  if '\'' ∈ text ∧ '"' ∉ text then '"' else '\''

/-- One character inside a literal: the quote in use and the backslash are escaped, unprintable
characters are given by name or by code point, everything else shows as itself. -/
def literalChar (quote c : Char) : Text :=
  if c = quote ∨ c = '\\' then ['\\', c]
  else if c = '\n' then ['\\', 'n']
  else if c = '\r' then ['\\', 'r']
  else if c = '\t' then ['\\', 't']
  else if isPrintable c then [c]
  else if c.toNat < 0x100 then '\\' :: 'x' :: hex 2 c.toNat
  else if c.toNat < 0x10000 then '\\' :: 'u' :: hex 4 c.toNat
  else '\\' :: 'U' :: hex 8 c.toNat

def literal (text : Text) : Text :=
  let quote := literalQuote text
  quote :: text.flatMap (literalChar quote) ++ [quote]

theorem literal_eq (text : Text) :
    literal text = [literalQuote text] ++ text.flatMap (literalChar (literalQuote text)) ++
      [literalQuote text] := by
  simp [literal]

end DocScan.Text
