import CommentSeparator.Log.Pattern.Class
import CommentSeparator.Text.Letter

/-!
# Patterns of field values

A directive may ask that the value of a field match a pattern, which is a number or a regular
expression.  Only spans are matched by value, and the program opens none, so what a pattern matches
never matters here.  What matters is whether it can be read, because one bad pattern spoils a
setting.

A regular expression is read from left to right.  `Reader` is what is known on the way: the flags
that are in force, the groups that are open, and how deep everything is nested, which is bounded.
A counted repetition is never complete: the brace that would close it ends the field.

* `isWellFormed` — can a text be read as a pattern?
-/

namespace CommentSeparator.Pattern

/-- How deep the parts of a regular expression may be nested. -/
def depthBound : Nat := 250

/-! ## Groups -/

/-- The letters that change how a group is read. -/
def flagLetters : List Char := ['i', 'm', 's', 'U', 'u', 'R', 'x']

/-- Are these flags, with a dash before those that are turned off?  None may be there twice. -/
def areFlags (letters : List Char) : Bool :=
  letters.all (fun c => c = '-' || flagLetters.contains c) && letters.eraseDups = letters &&
    letters.getLast? ≠ some '-'

/-- A flag after letters have turned it on or off, or neither. -/
def flagAfter (letters : List Char) (letter : Char) (before : Bool) : Bool :=
  if letters.contains letter then (letters.takeWhile (· ≠ '-')).contains letter else before

/-- The flags after letters have changed them. -/
def Flags.change (flags : Flags) (letters : List Char) : Flags where
  caseless := flagAfter letters 'i' flags.caseless
  unicode := flagAfter letters 'u' flags.unicode
  spaced := flagAfter letters 'x' flags.spaced

/-- May a group have this name? -/
def isGroupName : List Char → Bool
  | [] => false
  | first :: others =>
    (first = '_' || Text.isLetter first) &&
      others.all fun c => ['_', '.', '[', ']'].contains c || Text.isLetterOrNumber c

/-- What stands behind an opening parenthesis. -/
inductive GroupStart where
  /-- A group, with the letters that change its flags, or with a name. -/
  | group (letters : List Char) (name : Option (List Char))
  /-- Only letters: they hold for the rest of the group around them. -/
  | flags (letters : List Char)
  deriving DecidableEq, Repr

/-- Reads the name of a group, up to the angle bracket behind it. -/
def readName? (text : List Char) : Option (GroupStart × List Char) :=
  let name := text.takeWhile (· ≠ '>')
  match text.drop name.length with
  | [] => none
  | _ :: rest => if isGroupName name then some (.group [] (some name), rest) else none

/-- Reads letters, up to the colon or the parenthesis behind them. -/
def readFlags? (text : List Char) : Option (GroupStart × List Char) :=
  let letters := text.takeWhile fun c => c ≠ ':' ∧ c ≠ ')'
  match text.drop letters.length with
  | ':' :: rest => if areFlags letters then some (.group letters none, rest) else none
  | _ :: rest => if areFlags letters ∧ letters ≠ [] then some (.flags letters, rest) else none
  | [] => none

/-- Reads what is behind an opening parenthesis. -/
def readGroupStart? (text : List Char) : Option (GroupStart × List Char) :=
  match text with
  | '?' :: 'P' :: '<' :: rest | '?' :: '<' :: rest => readName? rest
  | '?' :: rest => readFlags? rest
  | _ => some (.group [] none, text)

/-! ## The whole -/

/-- A part that was read: how deep it is nested, and whether it can be repeated. -/
structure Part where
  depth : Nat := 0
  repeatable : Bool := true
  deriving DecidableEq, Repr

/-- What was read of a group, or of the whole: its last branch, latest part first, and how deep the
branches before that are nested. -/
structure Level where
  parts : List Part := []
  branches : List Nat := []
  deriving DecidableEq, Repr

namespace Level

/-- One more part. -/
def push (level : Level) (part : Part) : Level :=
  { level with parts := part :: level.parts }

/-- Ends a branch and begins another one. -/
def branch (level : Level) : Level where
  branches := rowDepth (level.parts.map Part.depth) :: level.branches

/-- How deep everything that was read is nested. -/
def depth (level : Level) : Nat :=
  match level.branch.branches with
  | [only] => only
  | branches => branches.foldl Nat.max 0 + 1

end Level

/-- A reader: the flags in force, the group that it is in, those around that one with their flags,
the names of groups, and what is left. -/
structure Reader where
  flags : Flags := {}
  level : Level := {}
  outer : List (Flags × Level) := []
  names : List (List Char) := []
  rest : List Char
  deriving DecidableEq, Repr

namespace Reader

/-- Behind one more part. -/
def push (reader : Reader) (part : Part) (rest : List Char) : Reader :=
  { reader with level := reader.level.push part, rest }

/-- Goes into a group, or changes the flags. -/
def enterGroup (reader : Reader) (text : List Char) : Option Reader := do
  match ← readGroupStart? (reader.flags.dropSpace text) with
  | (.flags letters, rest) =>
    let changed := reader.push { repeatable := false } rest
    some { changed with flags := reader.flags.change letters }
  | (.group letters name, rest) =>
    if name.any reader.names.contains then none
    else
      some
        { flags := reader.flags.change letters
          outer := (reader.flags, reader.level) :: reader.outer
          names := name.toList ++ reader.names
          rest }

/-- Leaves a group; the flags from before it are in force again. -/
def leaveGroup (reader : Reader) (text : List Char) : Option Reader :=
  match reader.outer with
  | [] => none
  | (flags, level) :: outer =>
    some
      { flags
        level := level.push { depth := reader.level.depth + 1 }
        outer
        names := reader.names
        rest := text }

/-- Repeats the last part; a question mark right behind the sign belongs to it. -/
def repeatLast (reader : Reader) (text : List Char) : Option Reader :=
  match reader.level.parts with
  | [] => none
  | part :: parts =>
    if part.repeatable then
      some
        { reader with
          level := { reader.level with parts := { depth := part.depth + 1 } :: parts }
          rest := if text.head? = some '?' then text.tail else text }
    else none

/-- Reads the next piece, which begins with a character. -/
def step (reader : Reader) (c : Char) (text : List Char) : Option Reader :=
  match c with
  | '(' => reader.enterGroup text
  | ')' => reader.leaveGroup text
  | '|' => some { reader with level := reader.level.branch, rest := text }
  | '[' => (readClass reader.flags text).map fun read => reader.push { depth := read.1 } read.2
  | '*' | '+' | '?' => reader.repeatLast text
  | '\x7b' => none
  | _ => do
    let (atom, rest) ← readAtom reader.flags c text
    if atom.isKnown reader.flags then some (reader.push {} rest) else none

/-- Reads a regular expression to its end: how deep it is nested.  Every step takes at least one
character, and all groups must be closed. -/
def run (reader : Reader) : Option Nat :=
  match reader.flags.dropSpace reader.rest with
  | [] => if reader.outer = [] then some reader.level.depth else none
  | c :: text =>
    match reader.step c text with
    | none => none
    | some next => if _h : next.rest.length < reader.rest.length then next.run else none
termination_by reader.rest.length

end Reader

/-! ## Numbers -/

/-- Is this an exponent, or nothing? -/
def isExponent (word : List Char) : Bool :=
  match word with
  | [] => true
  | mark :: rest =>
    let digits := match rest with
      | '+' :: digits | '-' :: digits => digits
      | digits => digits
    (mark = 'e' || mark = 'E') && digits ≠ [] && digits.all Char.isDigit

/-- Is this a number without a sign? -/
def isNumber (word : List Char) : Bool :=
  let whole := word.takeWhile Char.isDigit
  let (fraction, rest) := match word.drop whole.length with
    | '.' :: rest => (rest.takeWhile Char.isDigit, rest.dropWhile Char.isDigit)
    | rest => ([], rest)
  ["inf", "infinity", "nan"].contains (String.ofList (word.map Char.toLower)) ||
    (whole ++ fraction ≠ [] && isExponent rest)

/-- Can a text be read as a pattern?  A number without a plus sign in front can also be read as a
regular expression. -/
def isWellFormed (text : List Char) : Bool :=
  match text with
  | '+' :: rest => isNumber rest
  | _ => (Reader.run { rest := text }).any fun depth => depth ≤ depthBound

end CommentSeparator.Pattern
