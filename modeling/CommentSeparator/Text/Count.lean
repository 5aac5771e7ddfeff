/-!
# Counts

A count is written in decimal digits, with or without a plus sign, and is below 2^64.
-/

namespace CommentSeparator.Text

/-- The number that decimal digits spell. -/
def digitsValue (digits : List Char) : Nat :=
  digits.foldl (fun n c => n * 10 + (c.toNat - '0'.toNat)) 0

/-- A word without a plus sign in front. -/
def withoutPlus : List Char → List Char
  | '+' :: rest => rest
  | word => word

/-- No count reaches 2^64. -/
def countBound : Nat := 0x10000000000000000

/-- The count that a text is. -/
def count? (text : String) : Option UInt64 :=
  let digits := withoutPlus text.toList
  if digits ≠ [] ∧ digits.all Char.isDigit ∧ digitsValue digits < countBound then
    some (UInt64.ofNat (digitsValue digits))
  else none

end CommentSeparator.Text
