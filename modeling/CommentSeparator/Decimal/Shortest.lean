import CommentSeparator.Decimal.Binary64

/-!
# Shortest decimal text

A binary64 number is shown by the fewest decimal digits that are read back as the same number; of
the decimal numbers with so many digits, the nearest one is shown.

* `roundsTo` — the interval of the numbers that are nearest to a given one; its ends belong to it
  when the significand is even.
* `shortest` — the first decimal grid, from one digit on, that has a point in that interval.
* `Binary64.text` — the positional form, without an exponent and always with a decimal point.
-/

namespace CommentSeparator.Decimal

/-- A decimal number `digits * 10 ^ exponent`. -/
structure Scaled where
  digits : Nat
  exponent : Int
  deriving DecidableEq, Repr

/-- The fraction that a decimal number is. -/
def Scaled.fraction (x : Scaled) : Fraction :=
  .ofPower x.digits 10 x.exponent

/-- The lower end of the numbers that round to `significand * 2 ^ exponent`: half the distance to
the next number below, which is half as far away below a power of two. -/
def lowerEnd (significand : Nat) (exponent : Int) : Fraction :=
  if significand = Binary64.leastNormal ∧ exponent > Binary64.leastExponent then
    .ofPower (4 * significand - 1) 2 (exponent - 2)
  else
    .ofPower (2 * significand - 1) 2 (exponent - 1)

/-- The upper end of the numbers that round to `significand * 2 ^ exponent`. -/
def upperEnd (significand : Nat) (exponent : Int) : Fraction :=
  .ofPower (2 * significand + 1) 2 (exponent - 1)

/-- Does the decimal number round to `significand * 2 ^ exponent`? -/
def roundsTo (significand : Nat) (exponent : Int) (x : Scaled) : Bool :=
  let low := lowerEnd significand exponent
  let high := upperEnd significand exponent
  if significand % 2 = 0 then low.le x.fraction && x.fraction.le high
  else low.lt x.fraction && x.fraction.lt high

/-- The number of digits before the decimal point of a fraction, at or below zero for a small one:
the exponent of the least power of ten above it.  The logarithm in base two gives it up to one. -/
def magnitude (x : Fraction) : Int :=
  let estimate := x.log2 * 30103 / 100000
  if x.lt (.ofPower 1 10 estimate) then estimate
  else if x.lt (.ofPower 1 10 (estimate + 1)) then estimate + 1
  else estimate + 2

/-- The better of the two neighbours of a fraction on the grid of the multiples of
`10 ^ exponent`, among those that round to the number; of two equally near the upper one. -/
def onGrid? (significand : Nat) (binary : Int) (exponent : Int) : Option Scaled :=
  let steps := (Fraction.ofPower significand 2 binary).div (.ofPower 1 10 exponent)
  let below : Scaled := ⟨steps.floor, exponent⟩
  let above : Scaled := ⟨steps.floor + 1, exponent⟩
  let upperNearer := 2 * (steps.numerator % steps.denominator) ≥ steps.denominator
  match roundsTo significand binary below, roundsTo significand binary above with
  | true, true => some (if upperNearer then above else below)
  | true, false => some below
  | false, true => some above
  | false, false => none

/-- The decimal number with the fewest digits, tried from one digit to seventeen, which always
suffice. -/
def shortest (significand : Nat) (binary : Int) : Scaled :=
  let top := magnitude (.ofPower significand 2 binary)
  let exponents := (List.range 17).map fun (n : Nat) => top - 1 - (n : Int)
  (exponents.findSome? (onGrid? significand binary)).getD ⟨significand, binary⟩

/-- The decimal digits of a natural number. -/
def digitsOf (n : Nat) : List Char :=
  Nat.toDigits 10 n

/-- Digits with zeros in front, up to the given count. -/
def padded (count : Nat) (digits : List Char) : List Char :=
  List.replicate (count - digits.length) '0' ++ digits

/-- The positional form of a decimal number: no exponent, and at least one digit on either side of
the point. -/
def Scaled.text (x : Scaled) : List Char :=
  if 0 ≤ x.exponent then digitsOf (x.digits * Nat.pow 10 x.exponent.toNat) ++ ['.', '0']
  else
    let places := (-x.exponent).toNat
    let unit := Nat.pow 10 places
    let decimals := padded places (digitsOf (x.digits % unit))
    let decimals := (decimals.reverse.dropWhile (· = '0')).reverse
    digitsOf (x.digits / unit) ++ '.' :: if decimals = [] then ['0'] else decimals

end CommentSeparator.Decimal

namespace CommentSeparator.Binary64

/-- A minus sign for negative numbers. -/
def signText (negative : Bool) : String :=
  if negative then "-" else ""

/-- The text of a number. -/
def text : Binary64 → String
  | finite negative significand exponent =>
    signText negative ++
      if significand = 0 then "0.0"
      else String.ofList (Decimal.shortest significand exponent).text
  | infinite negative => signText negative ++ "inf"
  | nan => "NaN"

end CommentSeparator.Binary64
