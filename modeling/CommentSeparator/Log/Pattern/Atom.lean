import CommentSeparator.Text.Blank
import CommentSeparator.Text.Hexadecimal

/-!
# Atoms of a regular expression

An atom matches one character, or a place between two.  Flags say how it is read:

* Where `unicode` is set, an atom matches characters.  Elsewhere it matches octets, and it must not
  match one beyond ASCII alone, since that would cut a character in two.
* Where `caseless` is set, a letter matches in either case.  No table of cases beyond ASCII is at
  hand, so a Unicode part can have no character in it then.
* Where `spaced` is set, blanks are passed over, and comments from `#` to the end of the line.

There is no table of Unicode classes either, so words and digits are known outside of Unicode parts
only.

* `readAtom`, `readEscape` — read an atom.
* `Atom.isKnown` — can it be matched under the flags?
-/

namespace CommentSeparator.Pattern

/-- How a part of a regular expression is read. -/
structure Flags where
  caseless : Bool := false
  unicode : Bool := true
  spaced : Bool := false
  deriving DecidableEq, Repr

/-- What is left behind blanks and comments; within a comment, what is left behind it. -/
def dropComments (comment : Bool) : List Char → List Char
  | [] => []
  | c :: text =>
    if comment then dropComments (c ≠ '\n') text
    else if Text.isBlank c then dropComments false text
    else if c = '#' then dropComments true text
    else c :: text

/-- What is left behind the blanks and comments that the flags allow. -/
def Flags.dropSpace (flags : Flags) (text : List Char) : List Char :=
  if flags.spaced then dropComments false text else text

/-- One piece of a regular expression that has no parts. -/
inductive Atom where
  /-- A character; `octet` tells that it was written as the number of an octet. -/
  | literal (c : Char) (octet : Bool)
  /-- Digits, blanks or the characters of words, or all others. -/
  | namedClass (negated : Bool)
  /-- The beginning or the end of the text or a line. -/
  | edge
  /-- The beginning or the end of a word, or any other place. -/
  | wordEdge
  /-- Any character. -/
  | any
  deriving DecidableEq, Repr

/-- Can an atom be matched under the flags? -/
def Atom.isKnown (flags : Flags) : Atom → Bool
  | literal c octet => if flags.unicode then !flags.caseless else !octet || c.toNat < 0x80
  | namedClass negated => !flags.unicode && !negated
  | edge => true
  | wordEdge => !flags.unicode
  | any => flags.unicode

/-- How many digits a code point has behind this letter in an escape. -/
def codeDigits? (letter : Char) : Option Nat :=
  [('x', 2), ('u', 4), ('U', 8)].lookup letter

/-- Does this character stand for itself behind a backslash? -/
def isEscapable (c : Char) : Bool :=
  c.toNat < 0x80 && !c.isAlphanum && c ≠ '<' && c ≠ '>'

/-- What a character stands for behind a backslash, if it does not stand for itself. -/
def escapeAtoms : List (Char × Atom) :=
  [('a', .literal '\x07' false), ('f', .literal '\x0c' false), ('t', .literal '\t' false),
    ('n', .literal '\n' false), ('r', .literal '\r' false), ('v', .literal '\x0b' false),
    ('d', .namedClass false), ('s', .namedClass false), ('w', .namedClass false),
    ('D', .namedClass true), ('S', .namedClass true), ('W', .namedClass true),
    ('A', .edge), ('z', .edge),
    ('b', .wordEdge), ('B', .wordEdge), ('<', .wordEdge), ('>', .wordEdge)]

/-- Reads digits of a code point, and the space behind each. -/
def readCode (flags : Flags) : (digits value : Nat) → List Char → Option (Nat × List Char)
  | 0, value, text => some (value, text)
  | _ + 1, _, [] => none
  | digits + 1, value, c :: text => do
    let digit ← Text.hexValue? c
    readCode flags digits (value * 16 + digit) (flags.dropSpace text)

/-- Reads an escape, from behind its backslash. -/
def readEscape (flags : Flags) : List Char → Option (Atom × List Char)
  | [] => none
  | c :: text =>
    match codeDigits? c with
    | some digits => do
      let (value, rest) ← readCode flags digits 0 (flags.dropSpace text)
      if value.isValidChar then some (.literal (Char.ofNat value) (c = 'x'), rest) else none
    | none =>
      if isEscapable c then some (.literal c false, text)
      else (escapeAtoms.lookup c).map fun atom => (atom, text)

/-- Reads the atom that begins with a character. -/
def readAtom (flags : Flags) (c : Char) (text : List Char) : Option (Atom × List Char) :=
  if c = '\\' then readEscape flags text
  else if c = '.' then some (.any, text)
  else if c = '^' ∨ c = '$' then some (.edge, text)
  else some (.literal c false, text)

end CommentSeparator.Pattern
