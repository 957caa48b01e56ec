import DocScan.Json.Value
import DocScan.Text.Blank
import DocScan.Validation

/-!
# Spellings of settings

How a value of any type is taken as a truth value, a whole number or a text. Texts may spell truth
values in several words and whole numbers with a sign, grouping lines and an empty fraction.
-/

namespace DocScan.Settings

/-! ## Whole numbers -/

/-- A space: a blank that is not an information separator. -/
def isSpace (c : Char) : Bool := Text.isBlank c && !(0x1C ≤ c.toNat && c.toNat ≤ 0x1F)

def trimSpaces (text : Text) : Text :=
  ((text.dropWhile isSpace).reverse.dropWhile isSpace).reverse

/-- The text without a point and the zeros behind it that end it. -/
def dropZeroFraction (text : Text) : Text :=
  let zeros := text.reverse.takeWhile (· == '0')
  match text.reverse.dropWhile (· == '0') with
  | '.' :: digits => if zeros = [] then text else digits.reverse
  | _ => text

/-- What counts behind some zeros, of which the given one is the last: zeros and grouping lines do
not, but the last character does if nothing or a point follows it. -/
def behindZeros (last : Char) : Text → Option Text
  | [] => some [last]
  | c :: rest =>
    if c = '0' ∨ c = '_' then behindZeros c rest
    else if c = '.' then some (last :: c :: rest)
    else if c.isDigit ∨ c = '-' then some (c :: rest)
    else none

/-- The text without the zeros at its start and the grouping lines among them. A number starts with
a digit or a minus sign. -/
def dropLeadingZeros? : Text → Option Text
  | [] => none
  | c :: rest =>
    if c = '0' then behindZeros c rest
    else if c.isDigit ∨ c = '-' then some (c :: rest)
    else none

/-- The text without its grouping lines, if each of them stands alone and inside the text. -/
def ungroup (text : Text) : Text :=
  if (Text.split '_' text).all (· ≠ []) then text.filter (· != '_') else text

def dropPlus (text : Text) : Text :=
  match text with
  | '+' :: '-' :: _ => text
  | '+' :: rest => rest
  | _ => text

def maxDigits : Nat := 4300

/-- The number that some digits spell behind a minus sign or none. Without a sign the first digit is
zero only when it is the only one. A number that is too long is one, whatever follows it. -/
def magnitude (negative : Bool) (text : Text) : Except Fault Int :=
  let digits := text.takeWhile Char.isDigit
  let rest := text.dropWhile Char.isDigit
  let size := digits.length + negative.toNat
  let padded := digits.head? = some '0' ∧ digits.length ≠ 1
  if digits = [] ∨ (padded ∧ !negative) then .error .unreadableInteger
  else if maxDigits < size then .error .oversizedInteger
  else if rest ≠ [] then .error .unreadableInteger
  else .ok (Binary64.signed negative (Text.natural digits))

/-- The number that a text spells once nothing that is dropped is left in it. -/
def plainInteger : Text → Except Fault Int
  | '-' :: digits => magnitude true digits
  | digits => magnitude false digits

/-- The number that a text without spaces around it spells with marks that do not count. -/
def markedInteger (text : Text) : Except Fault Int :=
  match dropLeadingZeros? (dropPlus text) with
  | none => .error .unreadableInteger
  | some spelled =>
    (plainInteger (ungroup (dropZeroFraction spelled))).mapError fun _ => .unreadableInteger

/-- The whole number that a text spells. Only a number that starts without any mark that does not
count is refused for its size. -/
def spelledInteger (text : Text) : Except Fault Int :=
  let trimmed := trimSpaces text
  match plainInteger trimmed with
  | .error .unreadableInteger => markedInteger trimmed
  | plain => plain

def wordBound : Nat := Binary64.twoTo 63

def wholeOf (number : Binary64) : Except Fault Int :=
  match number with
  | .infinite _ | .undefined => .error .infinite
  | .finite _ _ _ =>
    match number.integral? with
    | none => .error .fractional
    | some whole => if whole.natAbs < wordBound then .ok whole else .error .oversizedInteger

def integerOf : Json.Value → Except Fault Int
  | .bool flag => .ok (if flag then 1 else 0)
  | .int number => .ok number
  | .float number => wholeOf number
  | .text text => spelledInteger text
  | _ => .error .notInteger

theorem integerOf_int (number : Int) : integerOf (.int number) = .ok number := rfl

/-! ## Truth values -/

def trueWords : List Text :=
  ["1".toList, "on".toList, "t".toList, "true".toList, "y".toList, "yes".toList]

def falseWords : List Text :=
  ["0".toList, "off".toList, "f".toList, "false".toList, "n".toList, "no".toList]

def wordFlag? (word : Text) : Option Bool :=
  let lower := word.map Char.toLower
  if trueWords.contains lower then some true
  else if falseWords.contains lower then some false
  else none

/-- The truth value that a number stands for. A number that no machine word holds is none at all. -/
def numberFlag (number : Int) : Except Fault Bool :=
  if number = 1 then .ok true
  else if number = 0 then .ok false
  else if -wordBound ≤ number ∧ number < wordBound then .error .unreadableFlag
  else .error .notFlag

def flagOf : Json.Value → Except Fault Bool
  | .bool flag => .ok flag
  | .int number => numberFlag number
  | .text word => ((wordFlag? word).map Except.ok).getD (.error .unreadableFlag)
  | .float number =>
    match wholeOf number with
    | .ok whole => numberFlag whole
    | .error _ => .error .notFlag
  | _ => .error .notFlag

theorem flagOf_word (word : Text) (flag : Bool) (spelt : wordFlag? word = some flag) :
    flagOf (.text word) = .ok flag := by
  simp [flagOf, spelt]

/-! ## Texts -/

def textOf : Json.Value → Except Fault Text
  | .text content => .ok content
  | _ => .error .notText

end DocScan.Settings
