import CommentSeparator.Proofs.Toml.DocumentLine

/-!
# A comment in front of a document

The line of a comment says nothing: a document with a comment in front is the document behind it
(`ofText?_comment`).  But nothing within a comment can be escaped.  A line that begins with the sign
of a comment and goes on with a text that no comment can hold is not a line at all, as no statement
begins with that sign, and so there is no document (`ofText?_noComment`).
-/

namespace CommentSeparator.Toml

/-- A text that a comment can hold, up to the line feed behind it: there are no control characters
in it, but it may end with a carriage return, which then belongs to the end of the line. -/
def IsComment (text : String) : Prop :=
  text.toList.dropWhile isPlain = [] ∨ text.toList.dropWhile isPlain = ['\r']

instance (text : String) : Decidable (IsComment text) :=
  inferInstanceAs (Decidable (_ ∨ _))

/-- In front of a text, plain characters make no difference. -/
lemma isComment_append {lead : String} (hlead : ∀ c ∈ lead.toList, isPlain c = true)
    (text : String) : IsComment (lead ++ text) ↔ IsComment text := by
  rw [IsComment, String.toList_append, List.dropWhile_append_of_pos hlead, IsComment]

/-! ## The line of a comment -/

lemma keyPath_eq_none {text : List Char} (hkey : key.read (skipSpace text) = none) :
    keyPath.read text = none := by
  have hpart : Reader.partAndMore key skipSpace '.' text = none := by
    rw [Reader.partAndMore, hkey]
  have hparts : Reader.parts key skipSpace '.' text = none := by
    rw [Reader.parts]
    split <;> simp_all
  simp only [keyPath, Reader.separated, Reader.mapSome, hparts]

/-- No statement begins with the sign of a comment. -/
lemma statement_comment (rest : List Char) : statement.read ('#' :: rest) = none := by
  have hkey : key.read (skipSpace ('#' :: rest)) = none := rfl
  simp [statement, Reader.orElse, Reader.map, Reader.mapSome, bracketed, after?, assignment,
    keyPath_eq_none hkey]

/-- The line of a comment must end behind its plain characters. -/
lemma line_comment (text rest : List Char) :
    line.read ('#' :: (text ++ '\n' :: rest))
      = (newline? (text.dropWhile isPlain ++ '\n' :: rest)).map fun left => (none, left) := by
  have hdrop : (text ++ '\n' :: rest).dropWhile isPlain
      = text.dropWhile isPlain ++ '\n' :: rest := by
    rw [List.dropWhile_append]
    split
    · rename_i hempty
      rw [List.isEmpty_iff.mp hempty]
      rfl
    · rfl
  have hend : lineEnd? ('#' :: (text ++ '\n' :: rest))
      = newline? (text.dropWhile isPlain ++ '\n' :: rest) := by
    rw [lineEnd?, skipSpace_cons rfl, skipComment, hdrop]
    cases text.dropWhile isPlain <;> rfl
  rw [line]
  simp only [hend, skipSpace_cons (show isSpace '#' = false from rfl), statement_comment]
  cases newline? (text.dropWhile isPlain ++ '\n' :: rest) <;> rfl

/-- A line feed ends a line if nothing but a carriage return is in front of it. -/
lemma newline?_append {left : List Char} (hline : '\n' ∉ left) (hleft : left ≠ [])
    (hreturn : left ≠ ['\r']) (rest : List Char) : newline? (left ++ '\n' :: rest) = none := by
  obtain ⟨c, more, rfl⟩ := List.exists_cons_of_ne_nil hleft
  rw [List.mem_cons, not_or] at hline
  by_cases hc : c = '\r'
  · subst hc
    cases more with
    | nil => exact absurd rfl hreturn
    | cons d more =>
        have hd : d ≠ '\n' := fun hd => hline.2 (hd ▸ List.mem_cons_self)
        simp [newline?, hd]
  · exact newline?_cons_eq_none (Ne.symm hline.1) hc _

/-! ## Documents -/

lemma withoutMark_of_ne {text : List Char} (h : text.head? ≠ some byteOrderMark) :
    withoutMark text = text := by
  cases text with
  | nil => rfl
  | cons c rest => rw [withoutMark, if_neg (by simpa using h)]

/-- Of a comment with a document behind it, nothing is dropped. -/
lemma withoutMark_comment (comment document : String) :
    withoutMark ("#" ++ comment ++ "\n" ++ document).toList
      = '#' :: (comment.toList ++ '\n' :: document.toList) := by
  simp [withoutMark, byteOrderMark]

/-- **A comment says nothing**: a document with a comment in front says what the document does. -/
theorem ofText?_comment {comment document : String} (hcomment : IsComment comment)
    (hmark : document.toList.head? ≠ some byteOrderMark) :
    Table.ofText? ("#" ++ comment ++ "\n" ++ document) = Table.ofText? document := by
  have hline : line.read ('#' :: (comment.toList ++ '\n' :: document.toList))
      = some (none, document.toList) := by
    rw [line_comment]
    rcases hcomment with h | h <;> rw [h] <;> rfl
  rw [Table.ofText?, Table.ofText?, withoutMark_comment, withoutMark_of_ne hmark,
    statements?_of_line hline]
  simp

/-- **A comment must be one**: behind the sign of a comment, any other text on one line leaves no
document. -/
theorem ofText?_noComment {text : String} (hline : '\n' ∉ text.toList) (hno : ¬ IsComment text)
    (document : String) : Table.ofText? ("#" ++ text ++ "\n" ++ document) = none := by
  have hread : line.read ('#' :: (text.toList ++ '\n' :: document.toList)) = none := by
    have hleft : '\n' ∉ text.toList.dropWhile isPlain :=
      fun hmem => hline ((List.dropWhile_sublist isPlain).mem hmem)
    obtain ⟨hempty, hreturn⟩ := not_or.mp hno
    rw [line_comment, newline?_append hleft hempty hreturn, Option.map_none]
  rw [Table.ofText?, withoutMark_comment,
    statements?_eq_none_of_line (List.cons_ne_nil _ _) hread, Option.bind_none]

end CommentSeparator.Toml
