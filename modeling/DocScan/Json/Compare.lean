import DocScan.Json.Value

/-!
# Comparing JSON values

Values are compared by meaning: truth values count as the numbers zero and one, whole and
floating-point numbers of one value are equal, and the order of members does not matter. Numbers,
texts and arrays have an order among themselves; other values have none. The fingerprint of a value
is what a hash table sees of it; arrays and objects have none.
-/

namespace DocScan.Json

/-! ## Truth -/

/-- The value counts as true: it is neither absent, zero nor empty. -/
def Value.truthy : Value → Bool
  | .null => false
  | .bool flag => flag
  | .int number => number != 0
  | .float (.finite _ mantissa _) => mantissa != 0
  | .float _ => true
  | .text content => !content.isEmpty
  | .array items => !items.isEmpty
  | .object members => !members.isEmpty

/-! ## Equality -/

def Value.number? : Value → Option (Int ⊕ Binary64)
  | .bool flag => some (.inl (if flag then 1 else 0))
  | .int number => some (.inl number)
  | .float number => some (.inr number)
  | _ => none

def sameNumber : Int ⊕ Binary64 → Int ⊕ Binary64 → Bool
  | .inl left, .inl right => left == right
  | .inr left, .inr right => left.sameValue right
  | .inl whole, .inr number | .inr number, .inl whole => number.integral? == some whole

mutual

def Value.same : Value → Value → Bool
  | .null, .null => true
  | .text left, .text right => left == right
  | .array left, .array right => sameItems left right
  | .object left, .object right => left.length == right.length && sameMembers left right
  | left, right =>
    match left.number?, right.number? with
    | some left, some right => sameNumber left right
    | _, _ => false

def sameItems : List Value → List Value → Bool
  | [], [] => true
  | left :: lefts, right :: rights => left.same right && sameItems lefts rights
  | _, _ => false

/-- Every member of the one object is equal to the member of that name in the other. -/
def sameMembers : List (Text × Value) → Members → Bool
  | [], _ => true
  | (name, left) :: lefts, rights =>
    (match rights.find? name with
      | some right => left.same right
      | none => false) && sameMembers lefts rights

end

/-! ## Order -/

def textLess : Text → Text → Bool
  | _, [] => false
  | [], _ :: _ => true
  | c :: left, d :: right => if c = d then textLess left right else c.toNat < d.toNat

def lessNumber : Int ⊕ Binary64 → Int ⊕ Binary64 → Bool
  | .inl left, .inl right => left < right
  | .inr left, .inr right => left.less right
  | .inl left, .inr right => Binary64.intLess left right
  | .inr left, .inl right => left.lessThanInt right

structure Incomparable where
  left : Text
  right : Text
deriving DecidableEq, Repr

def Incomparable.message (fault : Incomparable) : Text :=
  "'<' not supported between instances of '".toList ++ fault.left ++ "' and '".toList ++
    fault.right ++ ['\'']

mutual

def Value.less : Value → Value → Except Incomparable Bool
  | .text left, .text right => .ok (textLess left right)
  | .array left, .array right => lessItems left right
  | left, right =>
    match left.number?, right.number? with
    | some left, some right => .ok (lessNumber left right)
    | _, _ => .error { left := left.typeName, right := right.typeName }

/-- The first items that differ decide; if there are none the shorter list comes first. -/
def lessItems : List Value → List Value → Except Incomparable Bool
  | left :: lefts, right :: rights =>
    if left.same right then lessItems lefts rights else left.less right
  | lefts, rights => .ok (lefts.length < rights.length)

end

/-! ## Fingerprints -/

/-- What a hash table sees of a value: its absence, a number or a text. -/
inductive Fingerprint where
  | absent
  | number (residue : Int)
  | text (content : Text)
deriving DecidableEq, Repr

/-- The Mersenne prime by which the fingerprints of numbers are reduced. -/
def residueModulus : Nat := Binary64.twoTo 61 - 1

/-- The fingerprint of a number with a sign. Minus one is not in use and gives way to minus two. -/
def residueOf (negative : Bool) (magnitude : Nat) : Fingerprint :=
  let residue := Binary64.signed negative (magnitude % residueModulus)
  .number (if residue = -1 then -2 else residue)

/-- The fingerprint of a value that has one. Equal numbers of different types share theirs; the
fingerprint of the empty text is that of zero. -/
def Value.fingerprint? : Value → Option Fingerprint
  | .null => some .absent
  | .bool flag => some (.number (if flag then 1 else 0))
  | .int number => some (residueOf (decide (number < 0)) number.natAbs)
  | .float (.finite negative mantissa exponent) =>
    some (residueOf negative (mantissa * Binary64.twoTo (exponent % 61)))
  | .float (.infinite negative) => some (.number (Binary64.signed negative 314159))
  | .float .undefined => some (.number 0)
  | .text [] => some (.number 0)
  | .text content => some (.text content)
  | .array _ | .object _ => none

end DocScan.Json
