/-!
# Binary floating-point numbers

A number of 53 binary digits: a sign, a mantissa and an exponent of two, or one of the two
infinities, or the mark of something that is no number. Everything is computed on natural numbers,
so no operation of the machine is trusted. A finite number is in normal form when its mantissa has
53 digits or its exponent is the least one.
-/

namespace DocScan

/-- A double-precision number: `mantissa * 2 ^ exponent` with a sign, an infinity, or what stands in
the place of a number where there is none. -/
inductive Binary64 where
  | finite (negative : Bool) (mantissa : Nat) (exponent : Int)
  | infinite (negative : Bool)
  | undefined
deriving DecidableEq, Repr

namespace Binary64

/-- Two to the power of an exponent; one if the exponent is negative. -/
def twoTo (exponent : Int) : Nat := Nat.pow 2 exponent.toNat

/-- Ten to the power of an exponent; one if the exponent is negative. -/
def tenTo (exponent : Int) : Nat := Nat.pow 10 exponent.toNat

def leastExponent : Int := -1074

def greatestExponent : Int := 971

def zero (negative : Bool) : Binary64 := .finite negative 0 leastExponent

/-! ## Rounding -/

/-- A quotient rounded to the nearest natural number; a half goes to the even neighbour. -/
def roundQuotient (numerator denominator : Nat) : Nat :=
  let whole := numerator / denominator
  let rest := numerator % denominator
  if 2 * rest < denominator then whole
  else if 2 * rest > denominator then whole + 1
  else if whole % 2 = 0 then whole else whole + 1

def leadingExponent (numerator denominator : Nat) : Int :=
  let guess : Int := (Nat.log2 numerator : Int) - Nat.log2 denominator
  if denominator * twoTo guess ≤ numerator * twoTo (-guess) then guess else guess - 1

def ofRatio (negative : Bool) (numerator denominator : Nat) : Binary64 :=
  if numerator = 0 then zero negative
  else
    let exponent := max (leadingExponent numerator denominator - 52) leastExponent
    let mantissa :=
      roundQuotient (numerator * twoTo (-exponent)) (denominator * twoTo exponent)
    let (mantissa, exponent) :=
      if mantissa = twoTo 53 then (twoTo 52, exponent + 1) else (mantissa, exponent)
    if exponent > greatestExponent then .infinite negative else .finite negative mantissa exponent

/-- The double-precision number nearest to `digits * 10 ^ power`. Numbers far outside the range are
decided by their size alone. -/
def ofDecimal (negative : Bool) (digits : Nat) (power : Int) : Binary64 :=
  let size : Int := (Nat.toDigits 10 digits).length + power
  if digits = 0 ∨ size < -330 then zero negative
  else if size > 310 then .infinite negative
  else ofRatio negative (digits * tenTo power) (tenTo (-power))

def ofInt (number : Int) : Binary64 := ofRatio (decide (number < 0)) number.natAbs 1

/-! ## Whole and fractional part -/

def signed (negative : Bool) (magnitude : Nat) : Int :=
  if negative then -(magnitude : Int) else magnitude

def truncate? : Binary64 → Option Int
  | .finite negative mantissa exponent =>
    some (signed negative (mantissa * twoTo exponent / twoTo (-exponent)))
  | _ => none

def floor? : Binary64 → Option Int
  | .finite negative mantissa exponent =>
    some (signed negative (mantissa * twoTo exponent) / (twoTo (-exponent) : Int))
  | _ => none

def integral? : Binary64 → Option Int
  | .finite negative mantissa exponent =>
    if mantissa % twoTo (-exponent) = 0 then
      (Binary64.finite negative mantissa exponent).truncate?
    else none
  | _ => none

/-- The thousandths of a second in the fraction of a point in time, cut to whole ones. The fraction
is exact; its thousandfold is rounded once. -/
def thousandths : Binary64 → Int
  | .finite negative mantissa exponent =>
    let unit := twoTo (-exponent)
    ((ofRatio negative (mantissa * twoTo exponent % unit * 1000) unit).truncate?).getD 0
  | _ => 0

/-! ## Comparison -/

/-- The two numbers have the same value; zero has no sign here. -/
def sameValue : Binary64 → Binary64 → Bool
  | .finite leftSign left leftExponent, .finite rightSign right rightExponent =>
    (left == 0 && right == 0) ||
      (leftSign == rightSign &&
        left * twoTo (leftExponent - rightExponent) ==
          right * twoTo (rightExponent - leftExponent))
  | .infinite leftSign, .infinite rightSign => leftSign == rightSign
  | _, _ => false

def less : Binary64 → Binary64 → Bool
  | .finite leftSign left leftExponent, .finite rightSign right rightExponent =>
    signed leftSign (left * twoTo (leftExponent - rightExponent)) <
      signed rightSign (right * twoTo (rightExponent - leftExponent))
  | .infinite leftSign, .infinite rightSign => leftSign && !rightSign
  | .infinite negative, .finite _ _ _ => negative
  | .finite _ _ _, .infinite negative => !negative
  | .undefined, _ | _, .undefined => false

def lessThanInt (number : Binary64) (whole : Int) : Bool :=
  match number with
  | .finite negative mantissa exponent =>
    signed negative (mantissa * twoTo exponent) < whole * twoTo (-exponent)
  | .infinite negative => negative
  | .undefined => false

def intLess (whole : Int) (number : Binary64) : Bool :=
  match number with
  | .finite negative mantissa exponent =>
    whole * twoTo (-exponent) < signed negative (mantissa * twoTo exponent)
  | .infinite negative => !negative
  | .undefined => false

end Binary64

end DocScan
