import CommentSeparator.Style.Schema
import CommentSeparator.Toml.Form

/-!
# Writing styles

Styles are written as a TOML document with a table for each kind of separator, every value given.
Integers of a document are below 2^63, so a greater width cannot be written.
-/

namespace CommentSeparator

/-- A line that assigns a value. -/
def Toml.assignmentLine (key value : String) : String :=
  key ++ " = " ++ value ++ "\n"

/-- The integers of a document are below 2^63. -/
def Toml.integerBound : Nat := 0x8000000000000000

/-- A width as an integer of a document. -/
def Toml.widthText? (width : UInt64) : Option String :=
  if width.toNat < Toml.integerBound then some (toString width.toNat) else none

open Toml (assignmentLine widthText?)

/-- The table of the style of headers. -/
def HeaderStyle.toToml? (style : HeaderStyle) : Option String := do
  let width ← widthText? style.width
  pure ("[header]\n" ++ assignmentLine "begin" (Toml.written style.opening) ++
    assignmentLine "end" (Toml.written style.closing) ++ assignmentLine "width" width)

/-- The table of the style of regions. -/
def RegionStyle.toToml? (style : RegionStyle) : Option String := do
  let width ← widthText? style.width
  pure ("[region]\n" ++ assignmentLine "begin" (Toml.written style.opening) ++
    assignmentLine "end" (Toml.written style.closing) ++ assignmentLine "width" width ++
    assignmentLine "branch" (Toml.written style.branch.name))

/-- The document that describes styles, if it can be written. -/
def Styles.toToml? (styles : Styles) : Option String := do
  let header ← styles.header.toToml?
  let region ← styles.region.toToml?
  pure (header ++ "\n" ++ region)

/-- What was being done with styles that cannot be written, and what went wrong. -/
def Styles.unwritableChain : List String :=
  ["failed to serialize styles", "out-of-range value for u64 type"]

/-- What a message says about styles that cannot be written. -/
def Styles.unwritableMessage : String :=
  ": ".intercalate unwritableChain

end CommentSeparator
