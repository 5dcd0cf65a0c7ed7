import PosvGateway.Numeral.Basic

/-!
# Finite binary fractions of 64 bits

A number with a fraction or an exponent, or one too large for an integer, is kept as a double: a
mantissa below `2 ^ 53` times a power of two.

* `round?` is the nearest double of a fraction, ties to the even mantissa;
* `ofScientific?` is the double of a decimal mantissa and exponent, scaled in one rounded step per
  table entry, so that it may differ from the nearest double in the last place;
* `shortest` finds the fewest decimal digits that round back, the nearest of those;
* `text` prints them, positionally or with a signed exponent.
-/

namespace PosvGateway

/-- A finite double, `mantissa * 2 ^ exponent` with a sign. -/
structure Binary64 where
  /-- The number is below zero, or is the zero below zero. -/
  negative : Bool
  /-- Below `2 ^ 53`. -/
  mantissa : Nat
  /-- From `-1074` to `971`. -/
  exponent : Int
  deriving DecidableEq, Repr

namespace Binary64

/-- The least exponent. -/
def minExponent : Int := -1074

/-- The greatest exponent. -/
def maxExponent : Int := 971

/-- The least mantissa above the least exponent, `2 ^ 52`. -/
def hiddenBit : Nat := 0x10000000000000

/-- Zero. -/
def zero (negative : Bool) : Binary64 := ⟨negative, 0, minExponent⟩

/-- The number is zero. -/
def isZero (x : Binary64) : Bool := x.mantissa = 0

/-- The distance from zero, as a numerator and a denominator. -/
def fraction (x : Binary64) : Nat × Nat :=
  if 0 ≤ x.exponent then (x.mantissa <<< x.exponent.toNat, 1)
  else (x.mantissa, 1 <<< (-x.exponent).toNat)

/-! ### Rounding -/

/-- The quotient of two numbers and what is left, in units of `2 ^ exponent`: the quotient, the
remainder and the divisor it belongs to. -/
def scaledDivide (num den : Nat) (exponent : Int) : Nat × Nat × Nat :=
  let num := if exponent < 0 then num <<< (-exponent).toNat else num
  let den := if exponent < 0 then den else den <<< exponent.toNat
  (num / den, num % den, den)

/-- The exponent at which a positive fraction has a mantissa of 53 bits, or the least exponent. -/
def exponentOf (num den : Nat) : Int :=
  let guess : Int := (num.log2 : Int) - (den.log2 : Int) - 52
  let exponent := if (scaledDivide num den guess).1 < hiddenBit then guess - 1 else guess
  if exponent < minExponent then minExponent else exponent

/-- The nearest double of `num / den`, ties to the even mantissa, if it is finite. -/
def round? (negative : Bool) (num den : Nat) : Option Binary64 :=
  if num = 0 then some (zero negative)
  else
    let exponent := exponentOf num den
    let (quotient, remainder, divisor) := scaledDivide num den exponent
    let up := 2 * remainder > divisor || (2 * remainder = divisor && quotient % 2 = 1)
    let mantissa := if up then quotient + 1 else quotient
    let rounded : Binary64 :=
      if mantissa = 2 * hiddenBit then ⟨negative, hiddenBit, exponent + 1⟩
      else ⟨negative, mantissa, exponent⟩
    if rounded.exponent ≤ maxExponent then some rounded else none

/-- The product, rounded, if it is finite. -/
def mul? (x y : Binary64) : Option Binary64 :=
  let (a, b) := x.fraction
  let (c, d) := y.fraction
  round? (x.negative != y.negative) (a * c) (b * d)

/-- The quotient by a number other than zero, rounded, if it is finite. -/
def div? (x y : Binary64) : Option Binary64 :=
  let (a, b) := x.fraction
  let (c, d) := y.fraction
  round? (x.negative != y.negative) (a * d) (b * c)

/-- The nearest double of a power of ten. -/
def powerOfTen? (k : Nat) : Option Binary64 := round? false (Nat.pow 10 k) 1

/-- Divides by `10 ^ 308` while the exponent is below `-308`, then by the power that is left. -/
def scaleDown : Nat → Binary64 → Nat → Option Binary64
  | 0, x, _ => some (zero x.negative)
  | fuel + 1, x, k =>
    if k ≤ 308 then (powerOfTen? k).bind x.div?
    else if x.isZero then some x
    else (powerOfTen? 308).bind x.div? |>.bind fun y => scaleDown fuel y (k - 308)

/-- The double of `mantissa * 10 ^ exponent`: the mantissa is rounded, then multiplied or divided
by the rounded power. The result is `none` where it is not finite. -/
def ofScientific? (negative : Bool) (mantissa : Nat) (exponent : Int) : Option Binary64 :=
  (round? negative mantissa 1).bind fun x =>
    if 0 ≤ exponent then
      if exponent ≤ 308 then (powerOfTen? exponent.toNat).bind x.mul?
      else if x.isZero then some x else none
    else scaleDown 5 x (-exponent).toNat

/-! ### Shortest digits -/

/-- The number of decimal digits in front of the point of a positive fraction; zero or less counts
the zeros behind it. -/
def pointPosition (num den : Nat) : Int :=
  if den ≤ num then ((Nat.toDigits 10 (num / den)).length : Int)
  else
    let zeros := (Nat.toDigits 10 (den / num)).length - 1
    if den ≤ num * Nat.pow 10 zeros then 1 - (zeros : Int) else -(zeros : Int)

/-- The fraction `num / den` in units of `10 ^ k`, as a numerator and a denominator. -/
def inUnits (num den : Nat) (k : Int) : Nat × Nat :=
  if 0 ≤ k then (num, den * Nat.pow 10 k.toNat) else (num * Nat.pow 10 (-k).toNat, den)

/-- A decimal mantissa without trailing zeros and its exponent. -/
def trimZeros : Nat → Nat → Int → Nat × Int
  | 0, digits, k => (digits, k)
  | fuel + 1, digits, k =>
    if digits ≠ 0 ∧ digits % 10 = 0 then trimZeros fuel (digits / 10) (k + 1) else (digits, k)

/-- Looks for a number of `count` digits, and then of more, that rounds to the double between
`low` and `high`, all in units of `1 / den`; the nearer of two wins, and the even one of a tie. -/
def searchDigits (low mid high den : Nat) (closed : Bool) (point : Int) : Nat → Nat → Nat × Int
  | 0, _ => (mid, 0)
  | fuel + 1, count =>
    let k := point - (count : Int)
    let (num, unit) := inUnits mid den k
    let within (d : Nat) : Bool :=
      let (lo, unitLo) := inUnits low den k
      let (hi, unitHi) := inUnits high den k
      if closed then lo ≤ d * unitLo && d * unitHi ≤ hi else lo < d * unitLo && d * unitHi < hi
    let below := num / unit
    let above := below + 1
    let twice := 2 * (num % unit)
    let preferAbove := twice > unit || (twice = unit && below % 2 = 1)
    let first := if preferAbove then above else below
    let second := if preferAbove then below else above
    if within first && first ≠ 0 then trimZeros 20 first k
    else if within second && second ≠ 0 then trimZeros 20 second k
    else searchDigits low mid high den closed point fuel (count + 1)

/-- The fewest decimal digits that round to the double, and the exponent of the last of them. -/
def shortest (x : Binary64) : Nat × Int :=
  if x.isZero then (0, 0)
  else
    -- The double and the ends of the interval that rounds to it, in quarters of its last place.
    let atBorder := x.mantissa = hiddenBit && minExponent < x.exponent
    let mid := 4 * x.mantissa
    let low := if atBorder then mid - 1 else mid - 2
    let high := mid + 2
    let quarter := x.exponent - 2
    let scale := if 0 ≤ quarter then 1 <<< quarter.toNat else 1
    let den := if 0 ≤ quarter then 1 else 1 <<< (-quarter).toNat
    searchDigits (low * scale) (mid * scale) (high * scale) den (x.mantissa % 2 = 0)
      (pointPosition (mid * scale) den) 18 1

/-! ### Printing -/

/-- `count` zeros. -/
def zeros (count : Nat) : String := String.ofList (List.replicate count '0')

/-- The digits with a point after the first `position` of them. -/
def withPoint (digits : String) (position : Nat) : String :=
  String.ofList (digits.toList.take position) ++ "."
    ++ String.ofList (digits.toList.drop position)

/-- The digits in positional notation, always with a point. -/
def positionalDigits (digits : String) (k : Int) : String :=
  let point := (digits.length : Int) + k
  if 0 ≤ k then digits ++ zeros k.toNat ++ ".0"
  else if 0 < point then withPoint digits point.toNat
  else "0." ++ zeros (-point).toNat ++ digits

/-- The exponent of a number, always with its sign. -/
def exponentDigits (k : Int) : String :=
  if 0 ≤ k then "e+" ++ Numeral.decimal k.toNat else "e" ++ Numeral.signedDecimal k

/-- Positional notation from `10 ^ -5` up to `10 ^ 16`, and an exponent elsewhere. -/
def text (x : Binary64) : String :=
  let (mantissa, k) := x.shortest
  let digits := Numeral.decimal mantissa
  let point := (digits.length : Int) + k
  let body :=
    if x.isZero || (-5 < point && point ≤ 16) then positionalDigits digits k
    else if digits.length = 1 then digits ++ exponentDigits (point - 1)
    else withPoint digits 1 ++ exponentDigits (point - 1)
  if x.negative then "-" ++ body else body

end Binary64

end PosvGateway
