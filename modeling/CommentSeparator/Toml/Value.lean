import CommentSeparator.Decimal.Binary64

/-!
# TOML values

A document is a table: its entries in the order in which their keys first appear.  A table knows how
it came to be, because that decides whether later statements may add to it.
-/

namespace CommentSeparator.Toml

/-- How a table came to be. -/
inductive Origin where
  /-- Written in braces; it is complete. -/
  | inline
  /-- By the dots of an assigned key. -/
  | dotted
  /-- As a step on the way to a header's table. -/
  | implied
  /-- By a header of its own. -/
  | defined
  deriving DecidableEq, Repr

/-- A value.  Integers have 64 bits with a sign.  An array in brackets and an array of tables, which
headers build, are told apart. -/
inductive Value where
  | string (text : String)
  | integer (value : Int64)
  | float (value : Binary64)
  | boolean (value : Bool)
  | dateTime (text : String)
  | array (items : List Value)
  | tables (elements : List (List (String × Value)))
  | table (origin : Origin) (entries : List (String × Value))

/-- The entries of a table, in order. -/
abbrev Table := List (String × Value)

/-- The value under a key. -/
def Table.get? (table : Table) (key : String) : Option Value :=
  table.lookup key

/-- Is there an entry with this key? -/
def Table.has (table : Table) (key : String) : Bool :=
  table.any fun entry => entry.1 == key

end CommentSeparator.Toml
