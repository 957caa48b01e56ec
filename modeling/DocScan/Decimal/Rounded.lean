import DocScan.Decimal.Shortest

/-!
# Rounded decimals

A double-precision number with a given number of decimal places or of significant digits. The
number is taken exactly and rounded once; a half goes to the even neighbour.
-/

namespace DocScan.Decimal.Rounded

open Binary64

/-! ## Digits -/

def multiple (mantissa : Nat) (exponent power : Int) : Nat :=
  roundQuotient (mantissa * twoTo exponent * tenTo (-power)) (twoTo (-exponent) * tenTo power)

/-- The leading digits of a number, as many as are asked for, and the power of ten of the first one.
-/
def leadingDigits (mantissa : Nat) (exponent : Int) (count : Nat) : Text × Int :=
  if mantissa = 0 then (List.replicate count '0', 0)
  else
    let power := leadingPower mantissa exponent
    let digits := Text.ofNat (multiple mantissa exponent (power + 1 - count))
    if count < digits.length then (digits.take count, power + 1) else (digits, power)

/-! ## Forms -/

inductive Form where
  | scientific
  | fixed
  /-- Scientific for very small and very large numbers, and without zeros at the end. -/
  | general
deriving DecidableEq, Repr

/-- Digits in front of a point and behind it. A point that nothing follows is dropped unless it is
kept. -/
def withPoint (keep : Bool) (whole fraction : Text) : Text :=
  if fraction = [] ∧ keep = false then whole else whole ++ '.' :: fraction

def scientific (keep : Bool) (digits : Text) (power : Int) : Text :=
  withPoint keep (digits.take 1) (digits.drop 1) ++
    'e' :: (if power < 0 then '-' else '+') :: Text.padLeft '0' 2 (Text.ofNat power.natAbs)

def fixed (keep : Bool) (places mantissa : Nat) (exponent : Int) : Text :=
  let digits := Text.padLeft '0' (places + 1) (Text.ofNat (multiple mantissa exponent (-places)))
  withPoint keep (digits.take (digits.length - places)) (digits.drop (digits.length - places))

/-- Digits of which the first one has some power of ten, without naming the power. -/
def spread (keep : Bool) (digits : Text) (power : Int) : Text :=
  if power < 0 then
    withPoint keep ['0'] (List.replicate (-power - 1).toNat '0' ++ digits)
  else
    let whole := (power + 1).toNat
    withPoint keep (digits.take whole ++ List.replicate (whole - digits.length) '0')
      (digits.drop whole)

def dropZeros (digits : Text) : Text :=
  digits.take 1 ++ ((digits.drop 1).reverse.dropWhile (· == '0')).reverse

/-- A number with some significant digits. Zeros at the end are kept together with the point. -/
def general (keep : Bool) (count mantissa : Nat) (exponent : Int) : Text :=
  let (digits, power) := leadingDigits mantissa exponent count
  let digits := if keep then digits else dropZeros digits
  if power < -4 ∨ count ≤ power then scientific keep digits power else spread keep digits power

def isNegative : Binary64 → Bool
  | .finite negative _ _ | .infinite negative => negative
  | .undefined => false

/-- The text of a number without its sign. The size counts places or significant digits. -/
def magnitude (form : Form) (keep : Bool) (size : Nat) : Binary64 → Text
  | .undefined => "nan".toList
  | .infinite _ => "inf".toList
  | .finite _ mantissa exponent =>
    match form with
    | .scientific =>
      let (digits, power) := leadingDigits mantissa exponent (size + 1)
      scientific keep digits power
    | .fixed => fixed keep size mantissa exponent
    | .general => general keep (max size 1) mantissa exponent

end DocScan.Decimal.Rounded
