import CommentSeparator.Toml.Key
import CommentSeparator.Toml.Value

/-!
# Building tables

A document is built by steps that each change one table, reached by a path from the root.  Tables
that are missing on the way are made.  A path of dotted keys may not enter a table that was written
by other means, so no table is ever written in two places.

* `Table.update?` — changes the table at the end of a path.
* `Table.assign?` — puts a value under a path of dotted keys.
* `Table.header?`, `Table.element?` — what the headers `[path]` and `[[path]]` do.
-/

namespace CommentSeparator.Toml

/-- What a path is walked for: dotted keys of an assignment, or a header. -/
inductive Walk where
  | dotted
  | header
  deriving DecidableEq, Repr

/-- The origin of the tables that a walk makes on its way. -/
def Walk.origin : Walk → Origin
  | .dotted => .dotted
  | .header => .implied

/-- May a walk enter a table of this origin?  A table in braces is complete; dotted keys may only
enter tables that no header has defined. -/
def Walk.enters : Walk → Origin → Bool
  | _, .inline => false
  | .dotted, .defined => false
  | _, _ => true

namespace Table

/-- Replaces the value under a key. -/
def set (table : Table) (key : String) (value : Value) : Table :=
  table.map fun entry => if entry.1 = key then (key, value) else entry

/-- Adds an entry at the end. -/
def add (table : Table) (key : String) (value : Value) : Table :=
  table ++ [(key, value)]

/-- The table without the entry under a key. -/
def erase (table : Table) (key : String) : Table :=
  table.filter fun entry => entry.1 ≠ key

/-- Changes the table that a path leads to.  An array of tables is entered at its last element. -/
def update? (walk : Walk) (change : Origin → Table → Option Table) :
    (path : List String) → (origin : Origin) → Table → Option Table
  | [], origin, table => change origin table
  | key :: path, _, table =>
    match table.get? key with
    | none => do
      let inner ← update? walk change path walk.origin []
      pure (table.add key (.table walk.origin inner))
    | some (.table origin entries) =>
      if walk.enters origin then do
        let inner ← update? walk change path origin entries
        pure (table.set key (.table origin inner))
      else none
    | some (.tables elements) => do
      let last ← elements.getLast?
      let inner ← update? walk change path .defined last
      pure (table.set key (.tables (elements.dropLast ++ [inner])))
    | some _ => none

/-- Adds an entry whose key is new. -/
def addNew? (table : Table) (key : String) (value : Value) : Option Table :=
  if table.has key then none else some (table.add key value)

/-- Puts a value under a path of dotted keys.  The table that the dots lead to must be one that dots
have made. -/
def assign? (table : Table) (path : KeyPath) (value : Value) : Option Table :=
  table.update? .dotted
    (fun origin inner =>
      if path.stem ≠ [] ∧ origin ≠ .dotted then none else inner.addNew? path.leaf value)
    path.stem .defined

/-- Opens the table of a header.  A table that was only implied so far moves to the end. -/
def header? (table : Table) (path : KeyPath) : Option Table :=
  table.update? .header
    (fun _ inner =>
      match inner.get? path.leaf with
      | none => some (inner.add path.leaf (.table .defined []))
      | some (.table .implied entries) =>
        some ((inner.erase path.leaf).add path.leaf (.table .defined entries))
      | some _ => none)
    path.stem .defined

/-- Adds an empty element to the array of tables of a header. -/
def element? (table : Table) (path : KeyPath) : Option Table :=
  table.update? .header
    (fun _ inner =>
      match inner.get? path.leaf with
      | none => some (inner.add path.leaf (.tables [[]]))
      | some (.tables elements) => some (inner.set path.leaf (.tables (elements ++ [[]])))
      | some _ => none)
    path.stem .defined

/-- The table that some assignments build, in order. -/
def ofAssignments? (assignments : List (KeyPath × Value)) : Option Table :=
  assignments.foldlM (fun table assignment => assign? table assignment.1 assignment.2) []

end Table

end CommentSeparator.Toml
