/-!
# Binary64 numbers

A finite binary64 number is a significand below 2^53 times a power of two, with a sign.  Numbers are
kept in this exact form, so that reading and writing them is arithmetic on natural numbers.

* `Binary64.ofDecimal` — the nearest binary64 number to a decimal one; of two equally near the one
  with the even significand.  From the midpoint above the largest finite number on it is infinite.
-/

namespace CommentSeparator

/-- A number in binary64.  The magnitude of a finite one is `significand * 2 ^ exponent`, where
`exponent` is at least -1074 and the significand is at least 2^52 unless the exponent is -1074. -/
inductive Binary64 where
  | finite (negative : Bool) (significand : Nat) (exponent : Int)
  | infinite (negative : Bool)
  | nan
  deriving DecidableEq, Repr

/-- A positive fraction; both parts are positive where it is used. -/
structure Fraction where
  numerator : Nat
  denominator : Nat

namespace Fraction

/-- A natural number times a power, whose exponent may be negative. -/
def ofPower (factor base : Nat) (exponent : Int) : Fraction :=
  ⟨factor * base.pow exponent.toNat, base.pow (-exponent).toNat⟩

/-- The quotient of two fractions. -/
def div (x y : Fraction) : Fraction :=
  ⟨x.numerator * y.denominator, x.denominator * y.numerator⟩

def le (x y : Fraction) : Bool :=
  x.numerator * y.denominator ≤ y.numerator * x.denominator

def lt (x y : Fraction) : Bool :=
  x.numerator * y.denominator < y.numerator * x.denominator

/-- The greatest natural number that is not above a fraction. -/
def floor (x : Fraction) : Nat :=
  x.numerator / x.denominator

/-- The nearest natural number; a half goes to the even neighbour. -/
def roundEven (x : Fraction) : Nat :=
  let remainder := x.numerator % x.denominator
  if 2 * remainder < x.denominator ∨ (2 * remainder = x.denominator ∧ x.floor % 2 = 0) then x.floor
  else x.floor + 1

/-- The exponent of the greatest power of two that is not above a fraction. -/
def log2 (x : Fraction) : Int :=
  let estimate : Int := (Nat.log2 x.numerator : Int) - Nat.log2 x.denominator
  if (ofPower 1 2 estimate).le x then estimate else estimate - 1

end Fraction

namespace Binary64

/-- The least significand with all its 53 bits: 2^52.  Twice as much is out of range. -/
def leastNormal : Nat := 0x10000000000000

/-- The least exponent of a finite number. -/
def leastExponent : Int := -1074

/-- The greatest exponent of a finite number. -/
def greatestExponent : Int := 971

/-- The nearest number to a positive fraction. -/
def ofFraction (negative : Bool) (x : Fraction) : Binary64 :=
  let exponent := max leastExponent (x.log2 - 52)
  let significand := (x.div (.ofPower 1 2 exponent)).roundEven
  let carried := significand = 2 * leastNormal
  let exponent := if carried then exponent + 1 else exponent
  if exponent > greatestExponent then .infinite negative
  else .finite negative (if carried then leastNormal else significand) exponent

/-- The nearest number to `digits * 10 ^ exponent`.  Numbers far outside the range of binary64 are
decided by their order of magnitude, before any power is formed. -/
def ofDecimal (negative : Bool) (digits : Nat) (exponent : Int) : Binary64 :=
  let magnitude : Int := (Nat.toDigits 10 digits).length + exponent
  if digits = 0 ∨ magnitude < -400 then .finite negative 0 leastExponent
  else if magnitude > 400 then .infinite negative
  else ofFraction negative (.ofPower digits 10 exponent)

end Binary64

end CommentSeparator
