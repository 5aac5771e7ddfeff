import CommentSeparator.Log.Pattern.Atom

/-!
# Bracketed classes of a regular expression

A class in brackets is a union of characters, ranges, named classes and other bracketed ones.  Two
of the same signs `&`, `-` or `~` are an operator between unions.  Dashes in front, and a closing
bracket right in front, are characters; so is a dash that ends no range.

What a class matches never matters here, only whether it can be read and how deep it is nested.

* `readClass` — reads a class, from behind its opening bracket.
-/

namespace CommentSeparator.Pattern

/-- How deep parts in a row are nested: two and more of them are a part of their own. -/
def rowDepth : List Nat → Nat
  | [] => 0
  | [depth] => depth
  | depths => depths.foldl Nat.max 0 + 1

/-- Can a class have this character under the flags?  Without `unicode` it has octets. -/
def Flags.knowsInClass (flags : Flags) (c : Char) : Bool :=
  if flags.unicode then !flags.caseless else c.toNat < 0x80

/-- The names that a class can have between colons. -/
def className : List String :=
  ["alnum", "alpha", "ascii", "blank", "cntrl", "digit", "graph", "lower", "print", "punct",
    "space", "upper", "word", "xdigit"]

/-- Reads a class with a name between colons, from behind its bracket, and whether it is negated.
What is no such class is a bracketed one. -/
def readNamed? (text : List Char) : Option (Bool × List Char) :=
  match text with
  | ':' :: rest =>
    let negated := rest.head? = some '^'
    let rest := if negated then rest.tail else rest
    let name := rest.takeWhile (· ≠ ':')
    match rest.drop name.length with
    | ':' :: ']' :: rest =>
      if className.contains (String.ofList name) then some (negated, rest) else none
    | _ => none
  | _ => none

/-- Can a class with a name between colons be matched under the flags? -/
def Flags.knowsNamed (flags : Flags) (negated : Bool) : Bool :=
  if flags.unicode then !flags.caseless else !negated

/-- The character behind a dash, blanks aside, with `comment` from the sign of a comment on. -/
def nextVisible? (comment : Bool) : List Char → Option Char
  | [] => none
  | c :: text =>
    if Text.isBlank c then nextVisible? comment text
    else if c = '#' ∧ !comment then nextVisible? true text
    else some c

/-- The character that decides if a dash begins the end of a range.  Of a comment only its sign is
passed over, not its text. -/
def Flags.peek? (flags : Flags) (text : List Char) : Option Char :=
  if flags.spaced then (nextVisible? false text).or text.head? else text.head?

/-- Reads an atom of a class. -/
def readClassAtom (flags : Flags) (c : Char) (text : List Char) : Option (Atom × List Char) :=
  if c = '\\' then readEscape flags text else some (.literal c false, text)

/-- The character that an atom of a class is, if the class can have it. -/
def Flags.literalOf? (flags : Flags) : Atom → Option Char
  | .literal c _ => if flags.knowsInClass c then some c else none
  | _ => none

/-- What is left behind an atom that is an item of a class. -/
def single? (flags : Flags) (atom : Atom) (rest : List Char) : Option (List Char) :=
  match atom with
  | .literal c _ => if flags.knowsInClass c then some rest else none
  | .namedClass _ => if atom.isKnown flags then some rest else none
  | _ => none

/-- Reads an item of a class that begins with a character: one atom, or a range, which must not end
before it begins. -/
def readRange? (flags : Flags) (c : Char) (text : List Char) : Option (List Char) := do
  let (first, rest) ← readClassAtom flags c text
  match flags.dropSpace rest with
  | '-' :: behind =>
    let next := flags.peek? behind
    if next = some ']' ∨ next = some '-' then single? flags first ('-' :: behind)
    else
      match flags.dropSpace behind with
      | [] => none
      | d :: text => do
        let (last, rest) ← readClassAtom flags d text
        let low ← flags.literalOf? first
        let high ← flags.literalOf? last
        if low.toNat ≤ high.toNat then some rest else none
  | rest => single? flags first rest

/-- A class that is being read: how deep the items behind its last operator are nested, and what is
before that. -/
structure OpenClass where
  items : List Nat := []
  left : Option Nat := none
  deriving DecidableEq, Repr

namespace OpenClass

/-- One more item. -/
def push (level : OpenClass) (depth : Nat) : OpenClass :=
  { level with items := depth :: level.items }

/-- How deep everything that was read is nested. -/
def depth (level : OpenClass) : Nat :=
  match level.left with
  | none => rowDepth level.items
  | some left => Nat.max left (rowDepth level.items) + 1

end OpenClass

/-- A reader of classes: the class that it is in, those around that one, and what is left.  At the
beginning of a class only dashes were read. -/
structure ClassReader where
  current : OpenClass := {}
  outer : List OpenClass := []
  atBeginning : Bool := true
  rest : List Char
  deriving DecidableEq, Repr

/-- Goes into a class.  Outside of Unicode parts a negated class would match octets beyond ASCII. -/
def enterClass (flags : Flags) (outer : List OpenClass) (text : List Char) : Option ClassReader :=
  match flags.dropSpace text with
  | '^' :: rest => if flags.unicode then some { outer, rest } else none
  | rest => some { outer, rest }

/-- Reads the next piece of a class that begins with a character.  Leaving the outermost class gives
its depth. -/
def ClassReader.step (reader : ClassReader) (flags : Flags) (c : Char) (text : List Char) :
    Option (ClassReader ⊕ Nat × List Char) :=
  let after (rest : List Char) : ClassReader ⊕ Nat × List Char :=
    .inl { reader with current := reader.current.push 0, atBeginning := false, rest }
  if reader.atBeginning ∧ (c = '-' ∨ (c = ']' ∧ reader.current.items = [])) then
    if flags.knowsInClass c then
      some (.inl
        { reader with current := reader.current.push 0, atBeginning := c = '-', rest := text })
    else none
  else if c = '[' then
    match readNamed? text with
    | some (negated, rest) => if flags.knowsNamed negated then some (after rest) else none
    | none => (enterClass flags (reader.current :: reader.outer) text).map .inl
  else if c = ']' then
    match reader.outer with
    | [] => some (.inr (reader.current.depth + 1, text))
    | around :: outer =>
      some (.inl ⟨around.push (reader.current.depth + 1), outer, false, text⟩)
  else if ['&', '-', '~'].contains c ∧ text.head? = some c then
    some (.inl ⟨{ left := some reader.current.depth }, reader.outer, false, text.tail⟩)
  else (readRange? flags c text).map after

/-- Reads a class to its end.  Every step takes at least one character. -/
def ClassReader.run (reader : ClassReader) (flags : Flags) : Option (Nat × List Char) :=
  match flags.dropSpace reader.rest with
  | [] => none
  | c :: text =>
    match reader.step flags c text with
    | none => none
    | some (.inr read) => some read
    | some (.inl next) =>
      if _h : next.rest.length < reader.rest.length then next.run flags else none
termination_by reader.rest.length

/-- Reads a class, from behind its opening bracket: how deep it is nested, and what is left. -/
def readClass (flags : Flags) (text : List Char) : Option (Nat × List Char) := do
  (← enterClass flags [] text).run flags

end CommentSeparator.Pattern
