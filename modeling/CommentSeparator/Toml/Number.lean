import CommentSeparator.Toml.Escape
import CommentSeparator.Decimal.Binary64

/-!
# Numbers

A number is one word.  Its digits may have single underscores between them.

* `integer?` — the whole numbers of 64 bits with a sign: decimal without leading zeros, or in base
  sixteen, eight or two without a sign.
* `float?` — decimal numbers with a fraction, an exponent or both, rounded to binary64, and the
  words for infinity and for what is not a number.
-/

namespace CommentSeparator.Toml

/-- The value of a digit in a base of at most sixteen. -/
def digit? (base : Nat) (c : Char) : Option Nat :=
  (Text.hexValue? c).filter (· < base)

/-- The digits of a word, without the underscores; an underscore stands between two digits. -/
def digits? (base : Nat) : List Char → Option (List Nat)
  | [] => none
  | [c] => (digit? base c).map fun digit => [digit]
  | c :: '_' :: rest => do
    let digit ← digit? base c
    let more ← digits? base rest
    pure (digit :: more)
  | c :: rest => do
    let digit ← digit? base c
    let more ← digits? base rest
    pure (digit :: more)

/-- Takes a sign off a word: is the number negative, and what follows? -/
def splitSign : List Char → Bool × List Char
  | '-' :: rest => (true, rest)
  | '+' :: rest => (false, rest)
  | word => (false, word)

/-- Decimal digits that begin with a zero only if that is all. -/
def decimal? (word : List Char) : Option (List Nat) :=
  if word.head? = some '0' ∧ word ≠ ['0'] then none else digits? 10 word

/-- Applies a sign. -/
def signed (negative : Bool) (magnitude : Nat) : Int :=
  if negative then -magnitude else magnitude

/-- The integer of 64 bits that a number is, if it is one. -/
def int64? (n : Int) : Option Int64 :=
  if Int64.minValue.toInt ≤ n ∧ n ≤ Int64.maxValue.toInt then some (Int64.ofInt n) else none

/-- The whole number that a word is. -/
def integer? (word : List Char) : Option Int64 :=
  let number : Option Int := match word with
    | '0' :: 'x' :: rest => (digits? 16 rest).map fun ds => (spelled 16 ds : Int)
    | '0' :: 'o' :: rest => (digits? 8 rest).map fun ds => (spelled 8 ds : Int)
    | '0' :: 'b' :: rest => (digits? 2 rest).map fun ds => (spelled 2 ds : Int)
    | _ =>
      let (negative, rest) := splitSign word
      (decimal? rest).map fun ds => signed negative (spelled 10 ds)
  number.bind int64?

/-- The decimal places behind a point; none where there is no point. -/
def places? : List Char → Option (List Nat)
  | [] => some []
  | '.' :: rest => digits? 10 rest
  | _ => none

/-- The exponent behind its letter; zero where there is none. -/
def exponent? : List Char → Option Int
  | [] => some 0
  | _ :: rest =>
    let (negative, rest) := splitSign rest
    (digits? 10 rest).map fun ds => signed negative (spelled 10 ds)

/-- The number that a word with a fraction, an exponent or both is. -/
def decimalFloat? (negative : Bool) (word : List Char) : Option Binary64 := do
  let (mantissa, power) := word.span fun c => c ≠ 'e' ∧ c ≠ 'E'
  let (whole, decimals) := mantissa.span (· ≠ '.')
  if decimals = [] ∧ power = [] then none
  let whole ← decimal? whole
  let decimals ← places? decimals
  let exponent ← exponent? power
  pure (.ofDecimal negative (spelled 10 (whole ++ decimals)) (exponent - decimals.length))

/-- The number that a word is, if it is no whole number.  A positive number that is too large is
refused; a negative one counts as infinite. -/
def float? (word : List Char) : Option Binary64 :=
  let (negative, rest) := splitSign word
  if rest = ['i', 'n', 'f'] then some (.infinite negative)
  else if rest = ['n', 'a', 'n'] then some .nan
  else (decimalFloat? negative rest).filter fun value => value ≠ .infinite false

end CommentSeparator.Toml
