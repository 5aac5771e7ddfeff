import CommentSeparator.Toml.Reader

/-!
# Layout

What stands between the parts of a document: blanks, comments and line ends.

* `lineEnd?` — the end of a line: blanks, a comment, and a line feed with or without a carriage
  return before it, or the end of the text.
* `skipLayout` — blanks, comments and line ends in any number, as arrays allow between their items.
-/

namespace CommentSeparator.Toml

/-- A blank within a line. -/
def isSpace (c : Char) : Bool :=
  c = ' ' || c = '\t'

/-- A character that comments and quoted texts may hold as it is: any but the control characters,
of which the tab is allowed. -/
def isPlain (c : Char) : Bool :=
  c = '\t' || (0x20 ≤ c.toNat && c.toNat ≠ 0x7F)

/-- Passes over blanks within a line. -/
def skipSpace : Skip :=
  .ofClass isSpace

/-- What follows a line end in front of a text. -/
def newline? : List Char → Option (List Char)
  | '\n' :: rest => some rest
  | '\r' :: '\n' :: rest => some rest
  | _ => none

theorem length_newline?_lt {text rest : List Char} (h : newline? text = some rest) :
    rest.length < text.length := by
  unfold newline? at h
  split at h
  · injection h with h
    simp [h]
  · injection h with h
    simp only [← h, List.length_cons]
    omega
  · simp at h

/-- Passes over a comment, up to the end of its line. -/
def skipComment : List Char → List Char
  | '#' :: rest => rest.dropWhile isPlain
  | text => text

theorem length_skipComment_le (text : List Char) : (skipComment text).length ≤ text.length := by
  unfold skipComment
  split
  · exact Nat.le_succ_of_le (length_dropWhile_le ..)
  · exact Nat.le_refl _

/-- What follows the end of a line; nothing does when the line is not at its end. -/
def lineEnd? (text : List Char) : Option (List Char) :=
  match skipComment (skipSpace text) with
  | [] => some []
  | rest => newline? rest

theorem length_lineEnd?_le {text rest : List Char} (h : lineEnd? text = some rest) :
    rest.length ≤ text.length := by
  have hspace := skipSpace.le text
  have hcomment := length_skipComment_le (skipSpace text)
  unfold lineEnd? at h
  split at h
  · injection h with h
    simp [← h]
  · have := length_newline?_lt h
    omega

/-- Where there is a line to end, ending it takes something. -/
theorem length_lineEnd?_lt {text rest : List Char} (h : lineEnd? text = some rest)
    (htext : text ≠ []) : rest.length < text.length := by
  have hspace := skipSpace.le text
  have hcomment := length_skipComment_le (skipSpace text)
  unfold lineEnd? at h
  split at h
  · injection h with h
    rw [← h]
    exact List.length_pos_iff.2 htext
  · have := length_newline?_lt h
    omega

/-- Passes over blanks, line ends and comments.  A comment that is broken off by a control character
ends the passing, so that the character is met by whoever reads on. -/
def dropLayout : (inComment : Bool) → List Char → List Char
  | _, [] => []
  | inComment, c :: rest =>
    if c = '\n' then dropLayout false rest
    else if c = '\r' then if rest.head? = some '\n' then dropLayout false rest else c :: rest
    else if inComment then if isPlain c then dropLayout true rest else c :: rest
    else if c = '#' then dropLayout true rest
    else if isSpace c then dropLayout false rest
    else c :: rest

theorem length_dropLayout_le (inComment : Bool) (text : List Char) :
    (dropLayout inComment text).length ≤ text.length := by
  induction text generalizing inComment with
  | nil => simp [dropLayout]
  | cons c rest ih =>
    unfold dropLayout
    repeat' split
    all_goals first | exact Nat.le_refl _ | exact Nat.le_succ_of_le (ih _)

/-- Passes over blanks, line ends and comments. -/
def skipLayout : Skip :=
  ⟨dropLayout false, length_dropLayout_le false⟩

end CommentSeparator.Toml
