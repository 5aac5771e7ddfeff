import CommentSeparator.Toml.Escape

/-!
# Quoted texts

A quoted text stands between quotation marks, where a backslash begins an escape, or between
apostrophes, where every character stands for itself.  In either way it is written within a line,
between single marks, or as a block, between threefold ones.  A block may hold line ends and up to
two marks in a row; a line end right behind its opening is dropped.

* `Quoting.line` — reads a text within a line.
* `Quoting.block` — reads a block.
* `Quoting.text` — reads either, as the opening tells.
-/

namespace CommentSeparator.Toml

/-- A way to quote: the mark at both ends, and whether a backslash begins an escape. -/
structure Quoting where
  mark : Char
  escapes : Bool
  deriving DecidableEq, Repr

namespace Quoting

/-- Between quotation marks, with escapes. -/
def basic : Quoting := ⟨'"', true⟩

/-- Between apostrophes, where a backslash stands for itself. -/
def literal : Quoting := ⟨'\'', false⟩

/-- Reads one character of a quoted text: an escape, or a plain character other than the mark. -/
def character (quoting : Quoting) : Reader Char where
  read
    | [] => none
    | c :: rest =>
      if quoting.escapes ∧ c = '\\' then escape.read rest
      else if isPlain c ∧ c ≠ quoting.mark then some (c, rest)
      else none
  shorter := by
    intro text value rest h
    split at h
    · simp at h
    · split at h
      · exact Nat.lt_succ_of_lt (escape.shorter h)
      · split at h
        · simp only [Option.some.injEq, Prod.mk.injEq] at h
          simp [h.2]
        · simp at h

/-- The characters up to the closing mark. -/
def lineBody (quoting : Quoting) (text : List Char) : Option (List Char × List Char) :=
  if text.head? = some quoting.mark then some ([], text.tail)
  else
    match _h : quoting.character.read text with
    | none => none
    | some (c, rest) => (quoting.lineBody rest).map fun more => (c :: more.1, more.2)
termination_by text.length
decreasing_by exact quoting.character.shorter _h

theorem length_lineBody_le {quoting : Quoting} {text content rest : List Char}
    (h : quoting.lineBody text = some (content, rest)) : rest.length ≤ text.length := by
  induction text using lineBody.induct quoting generalizing content with
  | case1 text hmark =>
    rw [lineBody, if_pos hmark] at h
    simp only [Option.some.injEq, Prod.mk.injEq] at h
    rw [← h.2, List.length_tail]
    omega
  | case2 text hmark hread =>
    rw [lineBody, if_neg hmark] at h
    split at h <;> simp_all
  | case3 text hmark c left hread ih =>
    rw [lineBody, if_neg hmark] at h
    split at h
    · simp at h
    · rename_i hread'
      rw [hread] at hread'
      simp only [Option.some.injEq, Prod.mk.injEq] at hread'
      obtain ⟨more, hmore, hpair⟩ := Option.map_eq_some_iff.1 h
      simp only [Prod.mk.injEq] at hpair
      have := @ih more.1 (by rw [hread'.2, ← hpair.2]; exact hmore)
      have := quoting.character.shorter hread
      omega

/-- Reads a text within a line. -/
def line (quoting : Quoting) : Reader String where
  read
    | [] => none
    | c :: rest =>
      if c = quoting.mark then
        (quoting.lineBody rest).map fun body => (String.ofList body.1, body.2)
      else none
  shorter := by
    intro text value rest h
    split at h
    · simp at h
    · split at h
      · obtain ⟨body, hbody, hpair⟩ := Option.map_eq_some_iff.1 h
        simp only [Prod.mk.injEq] at hpair
        exact Nat.lt_succ_of_le (hpair.2 ▸ length_lineBody_le hbody)
      · simp at h

/-! ## Blocks -/

/-- Passes over blanks and line ends. -/
def dropBlankLines : List Char → List Char
  | [] => []
  | c :: rest =>
    if isSpace c ∨ c = '\n' ∨ (c = '\r' ∧ rest.head? = some '\n') then dropBlankLines rest
    else c :: rest

theorem length_dropBlankLines_le (text : List Char) :
    (dropBlankLines text).length ≤ text.length := by
  induction text with
  | nil => exact Nat.le_refl _
  | cons c rest ih =>
    rw [dropBlankLines]
    split
    · exact Nat.le_succ_of_le ih
    · exact Nat.le_refl _

/-- What follows a line that a backslash continues: the blanks behind the backslash, the line end,
and all blanks and line ends after it are passed over. -/
def continued? (text : List Char) : Option (List Char) :=
  (newline? (skipSpace text)).map dropBlankLines

theorem length_continued?_lt {text rest : List Char} (h : continued? text = some rest) :
    rest.length < text.length := by
  obtain ⟨after, hnewline, hrest⟩ := Option.map_eq_some_iff.1 h
  have := skipSpace.le text
  have := length_newline?_lt hnewline
  have := length_dropBlankLines_le after
  rw [hrest] at this
  omega

/-- Reads what a block holds beside its marks: a line end, which counts as one line feed, a
continued line, which counts as nothing, or one character. -/
def blockPiece (quoting : Quoting) : Reader (List Char) where
  read text :=
    match newline? text with
    | some rest => some (['\n'], rest)
    | none =>
      match if quoting.escapes ∧ text.head? = some '\\' then continued? text.tail else none with
      | some rest => some ([], rest)
      | none => (quoting.character.read text).map fun found => ([found.1], found.2)
  shorter := by
    intro text value rest h
    split at h
    · rename_i hnewline
      simp only [Option.some.injEq, Prod.mk.injEq] at h
      exact h.2 ▸ length_newline?_lt hnewline
    · split at h
      · rename_i hcontinued
        simp only [Option.some.injEq, Prod.mk.injEq] at h
        split at hcontinued
        · have := length_continued?_lt hcontinued
          rw [List.length_tail] at this
          rw [← h.2]
          omega
        · simp at hcontinued
      · obtain ⟨found, hread, hpair⟩ := Option.map_eq_some_iff.1 h
        simp only [Prod.mk.injEq] at hpair
        exact hpair.2 ▸ quoting.character.shorter hread

/-- The characters up to the closing marks, when `pending` marks have just been read.  The third
mark in a row closes; up to two more behind it belong to the text. -/
def blockBody (quoting : Quoting) (pending : Nat) (text : List Char) :
    Option (List Char × List Char) :=
  if text.head? = some quoting.mark then
    if pending < 2 then quoting.blockBody (pending + 1) text.tail
    else
      let extra := (text.tail.take 2).takeWhile (· = quoting.mark)
      some (extra, text.tail.drop extra.length)
  else
    match _h : quoting.blockPiece.read text with
    | none => none
    | some (piece, rest) =>
      (quoting.blockBody 0 rest).map fun more =>
        (List.replicate pending quoting.mark ++ piece ++ more.1, more.2)
termination_by text.length
decreasing_by
  · rename_i hmark _
    cases text with
    | nil => simp at hmark
    | cons => simp
  · exact quoting.blockPiece.shorter _h

theorem length_blockBody_le {quoting : Quoting} {pending : Nat} {text content rest : List Char}
    (h : quoting.blockBody pending text = some (content, rest)) : rest.length ≤ text.length := by
  induction pending, text using blockBody.induct quoting generalizing content with
  | case1 pending text hmark hpending ih =>
    rw [blockBody, if_pos hmark, if_pos hpending] at h
    have := ih h
    rw [List.length_tail] at this
    omega
  | case2 pending text hmark hpending =>
    rw [blockBody, if_pos hmark, if_neg hpending] at h
    simp only [Option.some.injEq, Prod.mk.injEq] at h
    rw [← h.2, List.length_drop, List.length_tail]
    omega
  | case3 pending text hmark hread =>
    rw [blockBody, if_neg hmark] at h
    split at h <;> simp_all
  | case4 pending text hmark piece left hread ih =>
    rw [blockBody, if_neg hmark] at h
    split at h
    · simp at h
    · rename_i hread'
      rw [hread] at hread'
      simp only [Option.some.injEq, Prod.mk.injEq] at hread'
      obtain ⟨more, hmore, hpair⟩ := Option.map_eq_some_iff.1 h
      simp only [Prod.mk.injEq] at hpair
      have := @ih more.1 (by rw [hread'.2, ← hpair.2]; exact hmore)
      have := quoting.blockPiece.shorter hread
      omega

/-- What follows a threefold mark. -/
def openBlock? (quoting : Quoting) : List Char → Option (List Char)
  | a :: b :: c :: rest =>
    if a = quoting.mark ∧ b = quoting.mark ∧ c = quoting.mark then some rest else none
  | _ => none

/-- Reads a block; a line end right behind its opening is dropped. -/
def block (quoting : Quoting) : Reader String where
  read text :=
    match quoting.openBlock? text with
    | none => none
    | some rest =>
      (quoting.blockBody 0 ((newline? rest).getD rest)).map fun body =>
        (String.ofList body.1, body.2)
  shorter := by
    intro text value rest h
    split at h
    · simp at h
    · rename_i inner hopen
      have hinner : inner.length < text.length := by
        unfold openBlock? at hopen
        split at hopen
        · split at hopen
          · injection hopen with hopen
            simp only [← hopen, List.length_cons]
            omega
          · simp at hopen
        · simp at hopen
      have hstart : ((newline? inner).getD inner).length ≤ inner.length := by
        cases hnewline : newline? inner with
        | none => exact Nat.le_refl _
        | some after => exact Nat.le_of_lt (length_newline?_lt hnewline)
      obtain ⟨body, hbody, hpair⟩ := Option.map_eq_some_iff.1 h
      simp only [Prod.mk.injEq] at hpair
      have := length_blockBody_le hbody
      rw [hpair.2] at this
      omega

/-- Reads a quoted text of either extent: a threefold mark opens a block. -/
def text (quoting : Quoting) : Reader String :=
  quoting.block.orElse quoting.line

end Quoting

/-- Reads a text in one of the four quoted forms. -/
def quotedText : Reader String :=
  Quoting.basic.text.orElse Quoting.literal.text

end CommentSeparator.Toml
