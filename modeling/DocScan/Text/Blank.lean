import DocScan.Text.Basic

/-!
# Blank characters and trimming

Blank characters are the separators and controls that may surround a line or a setting without being
part of it. Zero-width characters (U+200B, U+FEFF, U+2060) are not blank.
-/

namespace DocScan.Text

/-- The character separates: a tab, a line ending, an information separator, or a space of any
width. -/
def isBlank (c : Char) : Bool :=
  let n := c.toNat
  (0x09 ≤ n && n ≤ 0x0D) || (0x1C ≤ n && n ≤ 0x20) || n == 0x85 || n == 0xA0 || n == 0x1680 ||
    (0x2000 ≤ n && n ≤ 0x200A) || n == 0x2028 || n == 0x2029 || n == 0x202F || n == 0x205F ||
    n == 0x3000

def trimLeft (text : Text) : Text := text.dropWhile isBlank

def trimRight (text : Text) : Text := (text.reverse.dropWhile isBlank).reverse

def trim (text : Text) : Text := trimRight (trimLeft text)

theorem trimLeft_cons (c : Char) (rest : Text) :
    trimLeft (c :: rest) = if isBlank c then trimLeft rest else c :: rest := by
  cases blank : isBlank c <;> simp [trimLeft, blank]

end DocScan.Text
