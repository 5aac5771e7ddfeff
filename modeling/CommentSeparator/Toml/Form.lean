import CommentSeparator.Toml.Quoting

/-!
# Writing texts

A text can be written in four forms: between quotation marks or apostrophes, within a line or as a
block.  The simplest form that can hold it is chosen: escapes are avoided where a form without them
will do, and a line end is written as such.

* `Form.suits` — can a form hold a text?
* `Form.of` — the form that is chosen for a text.
* `written` — the text as it is written.
-/

namespace CommentSeparator.Toml

/-- The length of the longest run of a mark, when `current` marks have just been met. -/
def longestRunFrom (mark : Char) : (current : Nat) → List Char → Nat
  | current, [] => current
  | current, c :: rest =>
    if c = mark then longestRunFrom mark (current + 1) rest
    else max current (longestRunFrom mark 0 rest)

/-- The length of the longest run of a mark in a text. -/
def longestRun (mark : Char) (text : List Char) : Nat :=
  longestRunFrom mark 0 text

/-- A form of a text: what stands around it, and whether it is a block. -/
structure Form where
  quoting : Quoting
  block : Bool
  deriving DecidableEq, Repr

namespace Form

/-- Can a form hold a text without an escape for anything but a tab?  Control characters need one;
so does a backslash between quotation marks, a line feed outside of a block, and too many marks in a
row. -/
def suits (form : Form) (text : List Char) : Bool :=
  (text.all fun c => isPlain c || c = '\n') &&
    !(form.quoting.escapes && text.contains '\\') &&
    (form.block || !text.contains '\n') &&
    (longestRun form.quoting.mark text ≤ if form.block then 2 else 0)

/-- The forms in the order in which they are tried. -/
def all : List Form :=
  [⟨.basic, false⟩, ⟨.literal, false⟩, ⟨.basic, true⟩, ⟨.literal, true⟩]

/-- The form that is chosen for a text.  Where none can hold it without escapes, it is written
between quotation marks, as a block if it has more than one line. -/
def of (text : List Char) : Form :=
  (all.find? fun form => form.suits text).getD ⟨.basic, text.contains '\n'⟩

end Form

/-- A text between quotation marks within a line. -/
def escapedLine (text : List Char) : List Char :=
  text.flatMap escaped

/-- A text between quotation marks as a block.  Line feeds are written as they are, and so are
quotation marks up to two in a row: `run` counts those just written. -/
def escapedBlock : (run : Nat) → List Char → List Char
  | _, [] => []
  | run, c :: rest =>
    if c = '"' then
      if run < 2 then '"' :: escapedBlock (run + 1) rest else '\\' :: '"' :: escapedBlock 0 rest
    else if c = '\n' then '\n' :: escapedBlock 0 rest
    else escaped c ++ escapedBlock 0 rest

/-- What a form writes between its marks. -/
def Form.body (form : Form) (text : List Char) : List Char :=
  if form.quoting.escapes then if form.block then escapedBlock 0 text else escapedLine text
  else text

/-- What a form writes at either end: one mark, or three for a block. -/
def Form.marks (form : Form) : List Char :=
  List.replicate (if form.block then 3 else 1) form.quoting.mark

/-- A text in a form.  A block of several lines begins on a line of its own. -/
def Form.write (form : Form) (text : List Char) : List Char :=
  form.marks ++ (if form.block ∧ text.contains '\n' then ['\n'] else []) ++ form.body text ++
    form.marks

/-- A text as it is written. -/
def written (text : String) : String :=
  String.ofList ((Form.of text.toList).write text.toList)

end CommentSeparator.Toml
