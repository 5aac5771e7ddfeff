import CommentSeparator.Toml.Item

/-!
# Documents

A document is a sequence of lines, each with at most one statement: an assignment, the header of a
table, or the header of an element of an array of tables.  Assignments go into the table of the last
header before them.

* `line` — reads a line.
* `Draft.add?` — what a statement does to the tables built so far.
* `Table.ofText?` — the table that a text writes, or nothing when it is not TOML.
-/

namespace CommentSeparator.Toml

/-- What a line of a document says. -/
inductive Statement where
  | assign (path : KeyPath) (value : Value)
  | table (path : KeyPath)
  | element (path : KeyPath)

/-- What follows a text, if it stands in front. -/
def after? : (expected text : List Char) → Option (List Char)
  | [], text => some text
  | _ :: _, [] => none
  | e :: expected, c :: text => if e = c then after? expected text else none

theorem length_after?_le {expected text rest : List Char} (h : after? expected text = some rest) :
    rest.length ≤ text.length := by
  induction expected, text using after?.induct with
  | case1 text =>
    simp only [after?, Option.some.injEq] at h
    simp [h]
  | case2 => simp [after?] at h
  | case3 e expected text ih =>
    rw [after?, if_pos rfl] at h
    exact Nat.le_succ_of_le (ih h)
  | case4 e expected c text hne =>
    rw [after?, if_neg hne] at h
    simp at h

/-- Reads a path between brackets. -/
def bracketed (opening closing : List Char) : Reader KeyPath where
  read text := do
    let inner ← after? opening text
    let (path, rest) ← keyPath.read inner
    let rest ← after? closing rest
    pure (path, rest)
  shorter := by
    intro text path rest h
    simp only [Option.bind_eq_bind, Option.bind_eq_some_iff, Option.pure_def, Option.some.injEq,
      Prod.mk.injEq, Prod.exists] at h
    obtain ⟨inner, hopen, found, left, hpath, after, hclose, _, hrest⟩ := h
    have := length_after?_le hopen
    have := keyPath.shorter hpath
    have := length_after?_le hclose
    rw [hrest] at this
    omega

/-- Reads a statement.  Two brackets in front are a header of an element, one is a header of a
table. -/
def statement : Reader Statement :=
  (((bracketed ['[', '['] [']', ']']).map .element).orElse
      ((bracketed ['['] [']']).map .table)).orElse
    ((assignment (value (nestingBound - 1))).map fun found => .assign found.1 found.2)

/-- Reads a line with its end.  A line may hold no statement. -/
def line : Reader (Option Statement) where
  read
    | [] => none
    | c :: rest =>
      match lineEnd? (c :: rest) with
      | some left => some (none, left)
      | none =>
        match statement.read (skipSpace (c :: rest)) with
        | none => none
        | some (found, left) => (lineEnd? left).map fun left => (some found, left)
  shorter := by
    intro text found rest h
    cases text with
    | nil => simp at h
    | cons c after =>
      simp only at h
      split at h
      · rename_i hend
        simp only [Option.some.injEq, Prod.mk.injEq] at h
        exact h.2 ▸ length_lineEnd?_lt hend (by simp)
      · split at h
        · simp at h
        · rename_i left hread
          obtain ⟨final, hend, hpair⟩ := Option.map_eq_some_iff.1 h
          simp only [Prod.mk.injEq] at hpair
          have := skipSpace.le (c :: after)
          have := statement.shorter hread
          have := length_lineEnd?_le hend
          rw [hpair.2] at this
          omega

/-- The statements of a text, line by line. -/
def statements? (text : List Char) : Option (List Statement) :=
  if text = [] then some []
  else
    match _h : line.read text with
    | none => none
    | some (found, rest) => (statements? rest).map fun more => found.toList ++ more
termination_by text.length
decreasing_by exact line.shorter _h

/-- The tables built so far, and where assignments go. -/
structure Draft where
  root : Table := []
  current : List String := []

/-- What a statement does. -/
def Draft.add? (draft : Draft) : Statement → Option Draft
  | .assign path value => do
    let root ← draft.root.update? .header (fun _ table => table.assign? path value) draft.current
      .defined
    pure { draft with root }
  | .table path => do
    let root ← draft.root.header? path
    pure { root, current := path.keys }
  | .element path => do
    let root ← draft.root.element? path
    pure { root, current := path.keys }

/-- The table that some statements write. -/
def Table.ofStatements? (statements : List Statement) : Option Table :=
  (statements.foldlM Draft.add? {}).map Draft.root

/-- A mark that may stand in front of a document and is not part of it. -/
def byteOrderMark : Char := '\uFEFF'

/-- The text without a byte order mark in front. -/
def withoutMark : List Char → List Char
  | [] => []
  | c :: rest => if c = byteOrderMark then rest else c :: rest

/-- The table that a text writes. -/
def Table.ofText? (text : String) : Option Table :=
  (statements? (withoutMark text.toList)).bind Table.ofStatements?

end CommentSeparator.Toml
