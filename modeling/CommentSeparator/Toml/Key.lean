import CommentSeparator.Toml.Quoting

/-!
# Keys

A key is a bare word, or a text quoted within a line.  Keys with dots between them are a path: all
but the last name tables on the way, the last names the entry.
-/

namespace CommentSeparator.Toml

/-- A path of keys: the tables on the way, and the last key. -/
structure KeyPath where
  stem : List String
  leaf : String
  deriving DecidableEq, Repr

/-- All keys of a path. -/
def KeyPath.keys (path : KeyPath) : List String :=
  path.stem ++ [path.leaf]

/-- A character that a bare key may hold. -/
def isBareKeyChar (c : Char) : Bool :=
  c.isAlphanum || c = '_' || c = '-'

/-- Reads one key. -/
def key : Reader String :=
  (Quoting.basic.line.orElse Quoting.literal.line).orElse
    ((Reader.run isBareKeyChar).map String.ofList)

/-- How deep a document may nest: paths have fewer keys, and brackets that stand within each other
are fewer. -/
def nestingBound : Nat := 80

/-- The path of some keys, if there are any and not too many. -/
def KeyPath.ofKeys? (keys : List String) : Option KeyPath :=
  if keys.length < nestingBound then keys.getLast?.map fun leaf => ⟨keys.dropLast, leaf⟩ else none

/-- Reads a path, with the blanks around its keys. -/
def keyPath : Reader KeyPath :=
  (Reader.separated key skipSpace '.').mapSome KeyPath.ofKeys?

end CommentSeparator.Toml
