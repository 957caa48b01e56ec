import DocScan.Decimal.Binary64
import DocScan.Text.Basic

/-!
# Shortest decimals

The shortest decimal of a double-precision number has the fewest digits among those that read back
as the number, and is the nearest to it of these. A `Layout` says how the digits are set: where
positional notation ends and what an exponent looks like.
-/

namespace DocScan.Decimal

open Binary64

/-! ## The digits -/

/-- A positive number and the neighbourhood that rounds to it, in quarters of a unit of its last
binary digit. Below a power of two the neighbourhood is half as wide. -/
structure Neighbourhood where
  low : Nat
  centre : Nat
  high : Nat
  ends : Bool
  exponent : Int

/-- The neighbourhood of `mantissa * 2 ^ exponent`. Its ends belong to it when the mantissa is even.
-/
def neighbourhood (mantissa : Nat) (exponent : Int) : Neighbourhood :=
  { low := if mantissa = twoTo 52 ∧ exponent > leastExponent then 4 * mantissa - 1
      else 4 * mantissa - 2
    centre := 4 * mantissa
    high := 4 * mantissa + 2
    ends := mantissa % 2 == 0
    exponent := exponent - 2 }

/-- The nearest point of the grid of multiples of `10 ^ power` that lies in the neighbourhood, if
any does. Of two equally near ones the even one is taken. -/
def onGrid (near : Neighbourhood) (power : Int) : Option Nat :=
  let scale := twoTo near.exponent * tenTo (-power)
  let step := tenTo power * twoTo (-near.exponent)
  let inside (point : Nat) : Bool :=
    if near.ends then near.low * scale ≤ point * step ∧ point * step ≤ near.high * scale
    else near.low * scale < point * step ∧ point * step < near.high * scale
  let below := near.centre * scale / step
  let above := below + 1
  let gapBelow := near.centre * scale - below * step
  let gapAbove := above * step - near.centre * scale
  match inside below, inside above with
  | true, true =>
    if gapBelow < gapAbove then some below
    else if gapAbove < gapBelow then some above
    else if below % 2 = 0 then some below else some above
  | true, false => some below
  | false, true => some above
  | false, false => none

/-- The power of ten of the leading decimal digit of `mantissa * 2 ^ exponent`. -/
def leadingPower (mantissa : Nat) (exponent : Int) : Int :=
  let whole := mantissa * twoTo exponent
  let unit := twoTo (-exponent)
  if unit ≤ whole then ((Nat.toDigits 10 (whole / unit)).length : Int) - 1
  else -(((List.range 330).find? fun shift => unit ≤ whole * tenTo (shift : Nat)).getD 0 : Int)

/-- The digits of the shortest decimal and the place of the point: the number is `0.` followed by
the digits, times ten to that place. Seventeen digits always suffice. -/
def shortest (mantissa : Nat) (exponent : Int) : Text × Int :=
  let near := neighbourhood mantissa exponent
  let leading := leadingPower mantissa exponent
  let found := (List.range 17).findSome? fun (more : Nat) =>
    (onGrid near (leading - more)).map fun point => (point, leading - more)
  let (point, power) := found.getD (mantissa, exponent)
  let digits := Nat.toDigits 10 point
  let bare := (digits.reverse.dropWhile (· == '0')).reverse
  (bare, digits.length + power)

/-! ## The layout -/

structure Layout where
  /-- Places of the point above this one are written positionally … -/
  positionalAbove : Int
  /-- … as long as they do not exceed this one. -/
  positionalUpTo : Int
  plus : Bool
  exponentWidth : Nat
  infinity : Text
  negativeInfinity : Text
  undefined : Text

def positional (digits : Text) (place : Int) : Text :=
  if place ≤ 0 then '0' :: '.' :: List.replicate (-place).toNat '0' ++ digits
  else if digits.length ≤ place then
    digits ++ List.replicate (place.toNat - digits.length) '0' ++ ['.', '0']
  else digits.take place.toNat ++ '.' :: digits.drop place.toNat

def scientific (layout : Layout) (digits : Text) (place : Int) : Text :=
  let power := place - 1
  let sign := if power < 0 then ['-'] else if layout.plus then ['+'] else []
  let fraction := if digits.length ≤ 1 then [] else '.' :: digits.drop 1
  digits.take 1 ++ fraction ++ 'e' :: sign ++
    Text.padLeft '0' layout.exponentWidth (Text.ofNat power.natAbs)

def text (layout : Layout) : Binary64 → Text
  | .undefined => layout.undefined
  | .infinite true => layout.negativeInfinity
  | .infinite false => layout.infinity
  | .finite negative mantissa exponent =>
    let sign := if negative then ['-'] else []
    if mantissa = 0 then sign ++ ['0', '.', '0']
    else
      let (digits, place) := shortest mantissa exponent
      if layout.positionalAbove < place ∧ place ≤ layout.positionalUpTo then
        sign ++ positional digits place
      else sign ++ scientific layout digits place

end DocScan.Decimal
