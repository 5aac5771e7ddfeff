/-!
# Dates and times

A date-time is a date, a time of day, or both, and if both maybe an offset.  Only its form and the
ranges of its parts are checked; nothing is computed with it.
-/

namespace CommentSeparator.Toml

/-- The number that two digits spell, if it is in a range. -/
def twoDigits? (low high : Nat) (tens ones : Char) : Option Nat :=
  if tens.isDigit ∧ ones.isDigit then
    let n := (tens.toNat - '0'.toNat) * 10 + (ones.toNat - '0'.toNat)
    if low ≤ n ∧ n ≤ high then some n else none
  else none

/-- A year with a twenty-ninth of February. -/
def isLeap (year : Nat) : Bool :=
  year % 4 = 0 && (year % 100 ≠ 0 || year % 400 = 0)

/-- The number of days of a month. -/
def daysOf (year month : Nat) : Nat :=
  if month = 2 then if isLeap year then 29 else 28
  else if month = 4 ∨ month = 6 ∨ month = 9 ∨ month = 11 then 30
  else 31

/-- What follows a date. -/
def afterDate? : List Char → Option (List Char)
  | c :: y :: e :: a :: '-' :: m :: n :: '-' :: d :: f :: rest => do
    let century ← twoDigits? 0 99 c y
    let year ← twoDigits? 0 99 e a
    let month ← twoDigits? 1 12 m n
    let _ ← twoDigits? 1 (daysOf (century * 100 + year) month) d f
    pure rest
  | _ => none

/-- What follows decimal places of a second, if there are any. -/
def afterPlaces? : List Char → Option (List Char)
  | '.' :: rest =>
    if rest.takeWhile Char.isDigit = [] then none else some (rest.dropWhile Char.isDigit)
  | rest => some rest

/-- What follows a time of day; a minute may have a leap second. -/
def afterTime? : List Char → Option (List Char)
  | h :: i :: ':' :: m :: n :: ':' :: s :: t :: rest => do
    let _ ← twoDigits? 0 23 h i
    let _ ← twoDigits? 0 59 m n
    let _ ← twoDigits? 0 60 s t
    afterPlaces? rest
  | _ => none

/-- An offset: `Z`, or hours and minutes with a sign, or nothing. -/
def isOffset : List Char → Bool
  | [] => true
  | [c] => c = 'Z' || c = 'z'
  | [sign, h, i, ':', m, n] =>
    (sign = '+' || sign = '-') && (twoDigits? 0 23 h i).isSome && (twoDigits? 0 59 m n).isSome
  | _ => false

/-- Is the word a date, and nothing more? -/
def isDate (word : List Char) : Bool :=
  afterDate? word = some []

/-- Is the word a date-time?  Between date and time stands a letter `T` or a space. -/
def isDateTime (word : List Char) : Bool :=
  match afterDate? word with
  | none => afterTime? word = some []
  | some [] => true
  | some (delimiter :: time) =>
    (delimiter = 'T' || delimiter = 't' || delimiter = ' ') && (afterTime? time).any isOffset

end CommentSeparator.Toml
