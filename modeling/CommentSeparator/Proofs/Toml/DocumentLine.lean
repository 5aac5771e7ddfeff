import CommentSeparator.Proofs.Toml.Numeral
import CommentSeparator.Proofs.Toml.QuotedText
import CommentSeparator.Toml.Document

/-!
# Reading one line of a document

A written document has lines of three kinds: the header of a table, an assignment of a text or a
width to a bare key, and an empty line.  Each is read as the statement that it was written for, with
any text behind it (`line_header`, `line_assignment`, `line_empty`), and the statements of the lines
add up to the statements of the document (`statements?_of_line`).

The keys here are single and bare.  `keyPath_bare` says what a reader of key paths makes of one: it
takes the key and the blanks behind it, and leaves what follows.
-/

namespace CommentSeparator.Toml

/-! ## Keys -/

/-- A run of a class ends where the class ends. -/
lemma run_append {p : Char → Bool} {word rest : List Char} (hne : word ≠ [])
    (hword : ∀ c ∈ word, p c = true) (hrest : ∀ c ∈ rest.head?, p c = false) :
    (Reader.run p).read (word ++ rest) = some (word, rest) := by
  cases word with
  | nil => exact absurd rfl hne
  | cons c word =>
      obtain ⟨hc, hword⟩ := List.forall_mem_cons.mp hword
      have htake : rest.takeWhile p = [] ∧ rest.dropWhile p = rest := by
        cases rest with
        | nil => exact ⟨rfl, rfl⟩
        | cons d rest => simp [hrest d (by simp)]
      simp [Reader.run, hc, List.takeWhile_append_of_pos hword,
        List.dropWhile_append_of_pos hword, htake]

/-- A bare key begins neither with a blank nor with a mark, a bracket or the sign of a comment, and
does not end its line. -/
lemma ne_of_isBareKeyChar {c d : Char} (hc : isBareKeyChar c = true)
    (hd : isBareKeyChar d = false) : c ≠ d := by
  rintro rfl
  exact absurd hc (by simp [hd])

lemma isSpace_eq_false_of_isBareKeyChar {c : Char} (hc : isBareKeyChar c = true) :
    isSpace c = false := by
  have hblank := ne_of_isBareKeyChar hc (d := ' ') rfl
  have htab := ne_of_isBareKeyChar hc (d := '\t') rfl
  simp [isSpace, hblank, htab]

lemma skipSpace_cons {c : Char} (hc : isSpace c = false) (rest : List Char) :
    skipSpace (c :: rest) = c :: rest := by
  simp [skipSpace, Skip.ofClass, hc]

/-- A bare key is read up to its end. -/
lemma key_bare {c : Char} {name rest : List Char}
    (hname : ∀ d ∈ c :: name, isBareKeyChar d = true)
    (hrest : ∀ d ∈ rest.head?, isBareKeyChar d = false) :
    key.read (c :: name ++ rest) = some (String.ofList (c :: name), rest) := by
  have hc := hname c List.mem_cons_self
  have hquote : c ≠ '"' := ne_of_isBareKeyChar hc rfl
  have hapostrophe : c ≠ '\'' := ne_of_isBareKeyChar hc rfl
  have hrun := run_append (List.cons_ne_nil c name) hname hrest
  rw [List.cons_append] at hrun ⊢
  simp [key, Reader.orElse, Reader.map, Reader.mapSome, Quoting.line, Quoting.basic,
    Quoting.literal, hquote, hapostrophe, hrun]

/-- A bare key without a dot behind it is a path of its own, read with the blanks behind it. -/
lemma keyPath_bare {c stop : Char} {name rest after : List Char}
    (hname : ∀ d ∈ c :: name, isBareKeyChar d = true)
    (hrest : ∀ d ∈ rest.head?, isBareKeyChar d = false)
    (hskip : skipSpace rest = stop :: after) (hstop : stop ≠ '.') :
    keyPath.read (c :: name ++ rest) = some (⟨[], String.ofList (c :: name)⟩, stop :: after) := by
  have hc : isSpace c = false :=
    isSpace_eq_false_of_isBareKeyChar (hname c List.mem_cons_self)
  have hpart : Reader.partAndMore key skipSpace '.' (c :: name ++ rest)
      = some ((String.ofList (c :: name), false), stop :: after) := by
    have hkey := key_bare hname hrest
    rw [List.cons_append] at hkey ⊢
    simp [Reader.partAndMore, skipSpace_cons hc, hkey, hskip, hstop]
  have hparts : Reader.parts key skipSpace '.' (c :: name ++ rest)
      = some ([String.ofList (c :: name)], stop :: after) := by
    rw [Reader.parts]
    split <;> simp_all
  simp only [keyPath, Reader.separated, Reader.mapSome, hparts]
  rfl

/-! ## Values -/

/-- A written text is a value. -/
lemma value_written (depth : ℕ) (text : String) (rest : List Char) :
    (value (depth + 1)).read ((written text).toList ++ '\n' :: rest)
      = some (.string text, '\n' :: rest) := by
  have hread : quotedText.read ((Form.of text.toList).write text.toList ++ '\n' :: rest)
      = some (text, '\n' :: rest) := by
    rw [read_quotedText_write text.toList (by simp) (by simp), String.ofList_toList]
  simp [value, scalar, Reader.orElse, Reader.map, Reader.mapSome, written, hread]

/-- A written width is a value. -/
lemma value_width (depth : ℕ) {width : UInt64} (hwidth : width.toNat < integerBound)
    (rest : List Char) :
    (value (depth + 1)).read (Nat.toDigits 10 width.toNat ++ '\n' :: rest)
      = some (.integer width.toInt64, '\n' :: rest) := by
  have hdigits : ∀ c ∈ Nat.toDigits 10 width.toNat, c.isDigit = true :=
    fun c hc => isDigit_of_mem_toDigits_ten hc
  have hrun : (Reader.run isWordChar).read (Nat.toDigits 10 width.toNat ++ '\n' :: rest)
      = some (Nat.toDigits 10 width.toNat, '\n' :: rest) := by
    refine run_append Nat.toDigits_ne_nil ?_ (by simp [isWordChar])
    intro c hc
    simp [isWordChar, Char.isAlphanum, hdigits c hc]
  have hword : word.read (Nat.toDigits 10 width.toNat ++ '\n' :: rest)
      = some (Nat.toDigits 10 width.toNat, '\n' :: rest) := by
    simp [word, hrun]
  have hquoted : quotedText.read (Nat.toDigits 10 width.toNat ++ '\n' :: rest) = none := by
    obtain ⟨c, more, hcons⟩ := List.exists_cons_of_ne_nil (Nat.toDigits_ne_nil (b := 10)
      (n := width.toNat))
    have hc : c.isDigit = true := hdigits c (by simp [hcons])
    rw [hcons, List.cons_append, quotedText]
    simp [Reader.orElse, read_text_eq_none .basic (ne_of_isDigit hc rfl),
      read_text_eq_none .literal (ne_of_isDigit hc rfl)]
  simp [value, scalar, Reader.orElse, Reader.map, Reader.mapSome, hquoted, hword,
    ofWord?_toDigits hwidth]

/-! ## Lines -/

/-- A line with a statement: it begins with neither a blank nor a comment nor its end. -/
lemma line_statement {c : Char} {text rest : List Char} {found : Statement}
    (hspace : isSpace c = false) (hcomment : c ≠ '#') (hfeed : c ≠ '\n') (hreturn : c ≠ '\r')
    (hread : statement.read (c :: text) = some (found, '\n' :: rest)) :
    line.read (c :: text) = some (some found, rest) := by
  have hend : lineEnd? (c :: text) = none := by
    have hskip : skipComment (c :: text) = c :: text := by
      unfold skipComment
      split <;> simp_all
    simp [lineEnd?, skipSpace_cons hspace, hskip, newline?_cons_eq_none hfeed hreturn]
  have hleft : lineEnd? ('\n' :: rest) = some rest := rfl
  simp [line, hend, skipSpace_cons hspace, hread, hleft]

/-- An assignment to a bare key. -/
lemma line_assignment {c : Char} {name written rest : List Char} {found : Value}
    (hname : ∀ d ∈ c :: name, isBareKeyChar d = true)
    (hvalue : (value (nestingBound - 1)).read (written ++ '\n' :: rest)
      = some (found, '\n' :: rest))
    (hwritten : skipSpace (written ++ '\n' :: rest) = written ++ '\n' :: rest) :
    line.read (c :: name ++ (' ' :: '=' :: ' ' :: (written ++ '\n' :: rest)))
      = some (some (.assign ⟨[], String.ofList (c :: name)⟩ found), rest) := by
  have hc := hname c List.mem_cons_self
  have hbracket : c ≠ '[' := ne_of_isBareKeyChar hc rfl
  have hpath : keyPath.read (c :: name ++ (' ' :: '=' :: ' ' :: (written ++ '\n' :: rest)))
      = some (⟨[], String.ofList (c :: name)⟩, '=' :: ' ' :: (written ++ '\n' :: rest)) :=
    keyPath_bare hname (by simp [isBareKeyChar]) rfl (by decide)
  have hskip : skipSpace (' ' :: (written ++ '\n' :: rest)) = written ++ '\n' :: rest :=
    Eq.trans rfl hwritten
  have hassign : (assignment (value (nestingBound - 1))).read
      (c :: name ++ (' ' :: '=' :: ' ' :: (written ++ '\n' :: rest)))
        = some ((⟨[], String.ofList (c :: name)⟩, found), '\n' :: rest) := by
    simp only [assignment, hpath, hskip, hvalue, Option.map_some]
  refine line_statement (isSpace_eq_false_of_isBareKeyChar hc) (ne_of_isBareKeyChar hc rfl)
    (ne_of_isBareKeyChar hc rfl) (ne_of_isBareKeyChar hc rfl) ?_
  rw [List.cons_append] at hassign
  simp [statement, Reader.orElse, Reader.map, Reader.mapSome, bracketed, after?, hbracket.symm,
    hassign]

/-- The header of a table with a bare name. -/
lemma line_header {c : Char} {name : List Char}
    (hname : ∀ d ∈ c :: name, isBareKeyChar d = true) (rest : List Char) :
    line.read ('[' :: (c :: name ++ (']' :: '\n' :: rest)))
      = some (some (.table ⟨[], String.ofList (c :: name)⟩), rest) := by
  have hbracket : c ≠ '[' := ne_of_isBareKeyChar (hname c List.mem_cons_self) rfl
  have hpath : keyPath.read (c :: name ++ (']' :: '\n' :: rest))
      = some (⟨[], String.ofList (c :: name)⟩, ']' :: '\n' :: rest) :=
    keyPath_bare hname (by simp [isBareKeyChar]) rfl (by decide)
  refine line_statement rfl (by decide) (by decide) (by decide) ?_
  rw [List.cons_append] at hpath ⊢
  simp [statement, Reader.orElse, Reader.map, Reader.mapSome, bracketed, after?, hbracket.symm,
    hpath]

/-- An empty line says nothing. -/
lemma line_empty (rest : List Char) : line.read ('\n' :: rest) = some (none, rest) := rfl

/-- The statements of a text are that of its first line and those of the rest. -/
lemma statements?_of_line {text rest : List Char} {found : Option Statement}
    (hline : line.read text = some (found, rest)) :
    statements? text = (statements? rest).map fun more => found.toList ++ more := by
  have hne : text ≠ [] := by
    rintro rfl
    exact absurd hline (by simp [line])
  rw [statements?, if_neg hne]
  split
  · simp_all
  · rename_i hline'
    rw [hline] at hline'
    simp only [Option.some.injEq, Prod.mk.injEq] at hline'
    rw [hline'.1, hline'.2]

/-- A text is no document if its first line cannot be read. -/
lemma statements?_eq_none_of_line {text : List Char} (hne : text ≠ [])
    (hline : line.read text = none) : statements? text = none := by
  rw [statements?, if_neg hne]
  split
  · rfl
  · simp_all

/-! ## Written lines -/

/-- A key that needs no quotes. -/
def IsBareKey (key : String) : Prop :=
  key.toList ≠ [] ∧ ∀ c ∈ key.toList, isBareKeyChar c = true

instance (key : String) : Decidable (IsBareKey key) :=
  decidable_of_iff (key.toList.isEmpty = false ∧ key.toList.all isBareKeyChar = true) (by
    rw [IsBareKey, List.isEmpty_eq_false_iff, List.all_eq_true])

lemma IsBareKey.exists_cons {key : String} (hkey : IsBareKey key) :
    ∃ c name, key.toList = c :: name ∧ key = String.ofList (c :: name)
      ∧ ∀ d ∈ c :: name, isBareKeyChar d = true := by
  obtain ⟨c, name, hcons⟩ := List.exists_cons_of_ne_nil hkey.1
  refine ⟨c, name, hcons, ?_, hcons ▸ hkey.2⟩
  rw [← hcons, String.ofList_toList]

/-- The line of a written assignment, in front of anything, if its value is read back. -/
lemma statements?_assignmentLine {key written : String} {rest : List Char} {found : Value}
    (hkey : IsBareKey key)
    (hvalue : (value (nestingBound - 1)).read (written.toList ++ '\n' :: rest)
      = some (found, '\n' :: rest))
    (hwritten : skipSpace (written.toList ++ '\n' :: rest) = written.toList ++ '\n' :: rest) :
    statements? ((assignmentLine key written).toList ++ rest)
      = (statements? rest).map fun more => .assign ⟨[], key⟩ found :: more := by
  obtain ⟨c, name, hcons, hofList, hname⟩ := hkey.exists_cons
  have hline := line_assignment hname hvalue hwritten
  have hshape : (assignmentLine key written).toList ++ rest
      = c :: name ++ (' ' :: '=' :: ' ' :: (written.toList ++ '\n' :: rest)) := by
    simp [assignmentLine, hcons]
  rw [hshape, statements?_of_line hline, ← hofList]
  rfl

lemma statements?_textLine {key : String} (hkey : IsBareKey key) (text : String)
    (rest : List Char) :
    statements? ((assignmentLine key (written text)).toList ++ rest)
      = (statements? rest).map fun more => .assign ⟨[], key⟩ (.string text) :: more := by
  refine statements?_assignmentLine hkey (value_written _ text rest) ?_
  -- a written text begins with a mark, which is no blank
  have hhead : ∃ c more, (written text).toList = c :: more ∧ isSpace c = false := by
    obtain ⟨block, hform | ⟨hform, -⟩⟩ := Form.of_cases text.toList <;>
      cases block <;>
      exact ⟨_, _, by rw [written, hform, String.toList_ofList]; rfl, by decide⟩
  obtain ⟨c, more, hcons, hc⟩ := hhead
  rw [hcons, List.cons_append, skipSpace_cons hc]

lemma statements?_widthLine {key : String} (hkey : IsBareKey key) {width : UInt64}
    (hwidth : width.toNat < integerBound) (rest : List Char) :
    statements? ((assignmentLine key (toString width.toNat)).toList ++ rest)
      = (statements? rest).map fun more => .assign ⟨[], key⟩ (.integer width.toInt64) :: more := by
  have hdigits : (toString width.toNat).toList = Nat.toDigits 10 width.toNat := Nat.toList_repr
  refine statements?_assignmentLine hkey ?_ ?_
  · rw [hdigits]
    exact value_width _ hwidth rest
  · obtain ⟨c, more, hcons⟩ := List.exists_cons_of_ne_nil (Nat.toDigits_ne_nil (b := 10)
      (n := width.toNat))
    have hc : c.isDigit = true := isDigit_of_mem_toDigits_ten (n := width.toNat) (by simp [hcons])
    have hspace : isSpace c = false := by
      simp [isSpace, ne_of_isDigit hc (d := ' ') rfl, ne_of_isDigit hc (d := '\t') rfl]
    rw [hdigits, hcons, List.cons_append, skipSpace_cons hspace]

/-- A line with the header of a table. -/
def headerLine (name : String) : String :=
  "[" ++ name ++ "]\n"

lemma statements?_headerLine {name : String} (hname : IsBareKey name) (rest : List Char) :
    statements? ((headerLine name).toList ++ rest)
      = (statements? rest).map fun more => .table ⟨[], name⟩ :: more := by
  obtain ⟨c, more, hcons, hofList, hmore⟩ := hname.exists_cons
  have hshape : (headerLine name).toList ++ rest
      = '[' :: (c :: more ++ (']' :: '\n' :: rest)) := by
    simp [headerLine, hcons]
  rw [hshape, statements?_of_line (line_header hmore rest), ← hofList]
  rfl

end CommentSeparator.Toml
