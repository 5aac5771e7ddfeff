import CommentSeparator.Style.SchemaError
import CommentSeparator.Toml.Document

/-!
# Reading styles

Styles are read from a TOML document with the tables `header` and `region`.  What is not given keeps
its built-in value, and what no style has is refused.  Entries are looked at in the order in which
they stand, and **the first one that does not fit is the one reported**.

* `Field` — a key that a style has, and what a value under it changes.
* `Field.readAll` — a style from a table, or from an array that lists its values by position.
* `Styles.ofTable`, `Styles.ofToml` — the styles of a document.
-/

namespace CommentSeparator

open Toml (Value Table)

namespace Schema

/-- Reads a delimiter. -/
def text : Value → Except SchemaError String
  | .string text => .ok text
  | found => .error (.invalidType found .text)

/-- Reads a width.  Integers of a document are below 2^63, so every one that is not negative is a
width, with the same bits. -/
def width : Value → Except SchemaError UInt64
  | .integer value =>
    if value < 0 then .error (.negativeWidth value) else .ok value.toUInt64
  | found => .error (.invalidType found .width)

/-- The branch policy of a name. -/
def branchNamed (name : String) : Except SchemaError BranchPolicy :=
  match BranchPolicy.all.find? fun branch => branch.name = name with
  | some branch => .ok branch
  | none => .error (.unknownVariant name)

/-- Checks what stands beside the name of a branch policy: it must be empty. -/
def noContent : Value → Except SchemaError Unit
  | .table _ entries => if entries.isEmpty then .ok () else .error .contentNotEmpty
  | .array items => if items.isEmpty then .ok () else .error .contentNotEmpty
  | .tables elements => if elements.isEmpty then .ok () else .error .tablesNotEmpty
  | found => .error (.contentOfOtherType found)

/-- Reads a branch policy: its name, or a table with the name as its only key. -/
def branch : Value → Except SchemaError BranchPolicy
  | .string name => branchNamed name
  | .table _ [] => .error .noVariant
  | .table _ [(name, content)] => do
    let branch ← branchNamed name
    noContent content
    pure branch
  | .table _ _ => .error .manyVariants
  | _ => .error .variantOfOtherType

end Schema

/-- A key that something has, and what a value under it changes. -/
structure Field (σ : Type) where
  key : String
  set : Value → σ → Except SchemaError σ

namespace Field

variable {σ : Type}

/-- A field that holds one value of a type. -/
def holding {α : Type} (key : String) (read : Value → Except SchemaError α)
    (put : α → σ → σ) : Field σ where
  key
  set value target := do pure (put (← read value) target)

/-- What an entry of a table changes. -/
def readEntry (fields : List (Field σ)) (target : σ) (entry : String × Value) :
    Except SchemaError σ :=
  match fields.find? fun field => field.key = entry.1 with
  | some field => field.set entry.2 target
  | none => .error (.unknownField entry.1 (fields.map Field.key))

/-- What the entries of a table change, in order. -/
def readTable (fields : List (Field σ)) (target : σ) (table : Table) : Except SchemaError σ :=
  table.foldlM (readEntry fields) target

/-- What values change that are listed in the order of the fields.  Surplus values are ignored. -/
def readItems (fields : List (Field σ)) (target : σ) (items : List Value) :
    Except SchemaError σ :=
  (fields.zip items).foldlM (fun target pair => pair.1.set pair.2 target) target

/-- The key under which a date-time stands where a table is expected. -/
def dateTimeKey : String := "$__toml_private_datetime"

/-- What a value changes: a table by its keys, an array by position. -/
def readAll (fields : List (Field σ)) (expected : Expected) (target : σ) :
    Value → Except SchemaError σ
  | .table _ entries => readTable fields target entries
  | .array items => readItems fields target items
  | .tables elements => readItems fields target (elements.map (.table .defined))
  | .dateTime text => readTable fields target [(dateTimeKey, .string text)]
  | found => .error (.invalidType found expected)

end Field

namespace HeaderStyle

/-- The keys of the style of headers, in the order of their positions. -/
def fields : List (Field HeaderStyle) :=
  [.holding "begin" Schema.text fun text style => { style with opening := text },
    .holding "end" Schema.text fun text style => { style with closing := text },
    .holding "width" Schema.width fun width style => { style with width }]

/-- Reads the style of headers; what is not given keeps its built-in value. -/
def ofValue (value : Value) : Except SchemaError HeaderStyle :=
  Field.readAll fields .header {} value

end HeaderStyle

namespace RegionStyle

/-- The keys of the style of regions, in the order of their positions. -/
def fields : List (Field RegionStyle) :=
  [.holding "begin" Schema.text fun text style => { style with opening := text },
    .holding "end" Schema.text fun text style => { style with closing := text },
    .holding "width" Schema.width fun width style => { style with width },
    .holding "branch" Schema.branch fun branch style => { style with branch }]

/-- Reads the style of regions; what is not given keeps its built-in value. -/
def ofValue (value : Value) : Except SchemaError RegionStyle :=
  Field.readAll fields .region {} value

end RegionStyle

namespace Styles

/-- The tables of a document. -/
def fields : List (Field Styles) :=
  [.holding "header" HeaderStyle.ofValue fun header styles => { styles with header },
    .holding "region" RegionStyle.ofValue fun region styles => { styles with region }]

/-- The styles that a document describes. -/
def ofTable (table : Table) : Except SchemaError Styles :=
  Field.readTable fields {} table

/-- The styles that a TOML text describes. -/
def ofToml (text : String) : Except StyleError Styles :=
  match Table.ofText? text with
  | none => .error .notToml
  | some table => (ofTable table).mapError .schema

end Styles

end CommentSeparator
