import CommentSeparator.Toml.Form
import Mathlib.Tactic.Common

/-!
# Written texts are read back

`Form.of` picks one of four forms for a text, and `quotedText` has to find out which one it was.
Nothing is known about the text: it may hold marks in runs of any length, backslashes and control
characters.

**Within a line.**  Between quotation marks every character is written by `escaped`, and
`read_character_escaped` reads it back, so no condition on the text is left
(`lineBody_escapedLine`).  Between apostrophes the text stands as it is, which only a text without
apostrophes and control characters survives (`lineBody_verbatim`).

**Blocks.**  The reader counts the marks it has just passed and owes to the text, and the writer
counts the marks it has just written; the two counts agree at every step.  That agreement is the
induction of `blockBody_escapedBlock` and `blockBody_verbatim`.  Its base case is the closing,
`blockBody_closing`: the marks still owed touch the three closing ones and are given back.

**`read_quotedText_write`** puts the forms together.  The one condition is on what follows the text:
a mark there would be taken for one of its own.
-/

namespace CommentSeparator.Toml

/-! ## Single characters -/

/-- What is written for a character is the character itself, or a backslash and more. -/
lemma escaped_cases (c : Char) :
    (escaped c = [c] ∧ isPlain c = true ∧ c ≠ '"' ∧ c ≠ '\\')
      ∨ ∃ letter rest, escaped c = '\\' :: letter :: rest
          ∧ isSpace letter = false ∧ letter ≠ '\n' ∧ letter ≠ '\r' := by
  unfold escaped
  split
  · rename_i letter _ hfind
    right
    have hmem := List.mem_of_find?_eq_some hfind
    simp only [escapeLetters, List.mem_cons, Prod.mk.injEq, List.not_mem_nil, or_false] at hmem
    refine ⟨letter, [], rfl, ?_⟩
    rcases hmem with h | h | h | h | h | h | h <;> (obtain ⟨rfl, rfl⟩ := h; decide)
  · rename_i hfind
    rw [List.find?_eq_none] at hfind
    split
    · rename_i hplain
      have hquote := hfind ('"', '"') (by decide)
      have hslash := hfind ('\\', '\\') (by decide)
      simp only [decide_eq_true_eq] at hquote hslash
      exact Or.inl ⟨rfl, hplain, fun h => hquote h.symm, fun h => hslash h.symm⟩
    · exact Or.inr ⟨'u', _, rfl, by decide⟩

/-- A character between quotation marks is read back. -/
lemma read_character_escaped (c : Char) (rest : List Char) :
    Quoting.basic.character.read (escaped c ++ rest) = some (c, rest) := by
  rcases escaped_cases c with ⟨hc, hplain, hquote, hslash⟩ | ⟨letter, more, hc, -⟩
  · simp [hc, Quoting.character, Quoting.basic, hplain, hquote, hslash]
  · have hread := read_escape_escaped hc rest
    rw [hc, List.cons_append]
    simpa [Quoting.character, Quoting.basic] using hread

lemma head_escaped_ne_mark (c : Char) (rest : List Char) :
    (escaped c ++ rest).head? ≠ some '"' := by
  rcases escaped_cases c with ⟨hc, -, hquote, -⟩ | ⟨letter, more, hc, -⟩
  · simp [hc, hquote]
  · simp [hc]

/-! ## Texts within a line -/

/-- One character of a text within a line is read and put in front of the rest. -/
lemma lineBody_character {quoting : Quoting} {written rest after content : List Char} {c : Char}
    (hhead : written.head? ≠ some quoting.mark)
    (hread : quoting.character.read written = some (c, after))
    (hbody : quoting.lineBody after = some (content, rest)) :
    quoting.lineBody written = some (c :: content, rest) := by
  rw [Quoting.lineBody, if_neg hhead]
  split
  · simp_all
  · rename_i hread'
    rw [hread] at hread'
    simp only [Option.some.injEq, Prod.mk.injEq] at hread'
    simp [← hread'.1, ← hread'.2, hbody]

/-- The closing mark ends a text within a line. -/
lemma lineBody_mark (quoting : Quoting) (rest : List Char) :
    quoting.lineBody (quoting.mark :: rest) = some ([], rest) := by
  rw [Quoting.lineBody, if_pos List.head?_cons, List.tail_cons]

/-- Between quotation marks every text is read back. -/
lemma lineBody_escapedLine (text rest : List Char) :
    Quoting.basic.lineBody (escapedLine text ++ '"' :: rest) = some (text, rest) := by
  induction text with
  | nil => exact lineBody_mark .basic rest
  | cons c text ih =>
      rw [escapedLine, List.flatMap_cons, List.append_assoc]
      exact lineBody_character (head_escaped_ne_mark c _) (read_character_escaped c _) ih

/-- Between apostrophes a text is read back if it holds no apostrophe and no control character. -/
lemma lineBody_verbatim (text rest : List Char)
    (hplain : ∀ c ∈ text, isPlain c = true ∧ c ≠ '\'') :
    Quoting.literal.lineBody (text ++ '\'' :: rest) = some (text, rest) := by
  induction text with
  | nil => exact lineBody_mark .literal rest
  | cons c text ih =>
      obtain ⟨hc, htext⟩ := List.forall_mem_cons.mp hplain
      have hread : Quoting.literal.character.read (c :: (text ++ '\'' :: rest))
          = some (c, text ++ '\'' :: rest) := by
        simp [Quoting.character, Quoting.literal, hc.1, hc.2]
      exact lineBody_character (by simp [Quoting.literal, hc.2]) hread (ih htext)

/-! ## Blocks -/

/-- A mark that does not close is owed to the text. -/
lemma blockBody_mark (quoting : Quoting) {pending : ℕ} (hpending : pending < 2)
    (rest : List Char) :
    quoting.blockBody pending (quoting.mark :: rest) = quoting.blockBody (pending + 1) rest := by
  rw [Quoting.blockBody, if_pos List.head?_cons, if_pos hpending, List.tail_cons]

/-- The third mark closes, and of the marks behind it up to two belong to the text. -/
lemma blockBody_third (quoting : Quoting) (rest : List Char) :
    quoting.blockBody 2 (quoting.mark :: rest)
      = some ((rest.take 2).takeWhile (· = quoting.mark),
          rest.drop ((rest.take 2).takeWhile (· = quoting.mark)).length) := by
  rw [Quoting.blockBody, if_pos List.head?_cons, if_neg (by decide), List.tail_cons]

/-- **The closing marks**, behind the marks that are owed to the text.  All marks in the run but
three are the text's own, and there are at most two of them. -/
lemma blockBody_closing (quoting : Quoting) {pending : ℕ} (hpending : pending ≤ 2)
    {rest : List Char} (hrest : rest.head? ≠ some quoting.mark) :
    quoting.blockBody pending (List.replicate 3 quoting.mark ++ rest)
      = some (List.replicate pending quoting.mark, rest) := by
  have hstop : ∀ n, (rest.take n).takeWhile (· = quoting.mark) = [] := by
    intro n
    cases rest with
    | nil => simp
    | cons c rest => cases n <;> simp_all
  simp only [List.replicate_succ, List.replicate_zero, List.cons_append, List.nil_append]
  obtain rfl | rfl | rfl : pending = 0 ∨ pending = 1 ∨ pending = 2 := by omega
  · rw [blockBody_mark _ (by decide), blockBody_mark _ (by decide), blockBody_third, hstop]
    rfl
  · rw [blockBody_mark _ (by decide), blockBody_third]
    simp [hstop]
  · rw [blockBody_third]
    simp

/-- One piece of a block that is no mark is read, behind the marks that are owed. -/
lemma blockBody_piece (quoting : Quoting) {pending : ℕ}
    {written rest after content : List Char} {c : Char}
    (hhead : written.head? ≠ some quoting.mark)
    (hread : quoting.blockPiece.read written = some ([c], after))
    (hbody : quoting.blockBody 0 after = some (content, rest)) :
    quoting.blockBody pending written
      = some (List.replicate pending quoting.mark ++ c :: content, rest) := by
  rw [Quoting.blockBody, if_neg hhead]
  split
  · simp_all
  · rename_i hread'
    rw [hread] at hread'
    simp only [Option.some.injEq, Prod.mk.injEq] at hread'
    simp [← hread'.1, ← hread'.2, hbody]

/-- A line feed in a block stands for itself. -/
lemma read_blockPiece_newline (quoting : Quoting) (rest : List Char) :
    quoting.blockPiece.read ('\n' :: rest) = some (['\n'], rest) := rfl

/-- What starts with a plain character, or with a backslash, does not start with a line end. -/
lemma newline?_cons_eq_none {c : Char} (hfeed : c ≠ '\n') (hreturn : c ≠ '\r')
    (rest : List Char) : newline? (c :: rest) = none := by
  unfold newline?
  split <;> simp_all

/-- A written character does not start with a line end, unless it is the line feed of a block. -/
lemma newline?_escaped {c : Char} (hfeed : c ≠ '\n') (rest : List Char) :
    newline? (escaped c ++ rest) = none := by
  rcases escaped_cases c with ⟨hc, hplain, -, -⟩ | ⟨letter, more, hc, -⟩
  · have hreturn : c ≠ '\r' := by rintro rfl; exact absurd hplain (by decide)
    rw [hc]
    exact newline?_cons_eq_none hfeed hreturn rest
  · rw [hc]
    exact newline?_cons_eq_none (by decide) (by decide) _

/-- A block whose text has no line feed does not begin with a line end. -/
lemma newline?_escapedBlock {text : List Char} (hfeed : '\n' ∉ text) (rest : List Char) :
    newline? (escapedBlock 0 text ++ (List.replicate 3 '"' ++ rest)) = none := by
  cases text with
  | nil => rfl
  | cons c text =>
      have hc : c ≠ '\n' := by rintro rfl; exact hfeed List.mem_cons_self
      rw [escapedBlock, if_neg hc, if_pos (by decide : 0 < 2)]
      split_ifs
      · rfl
      · rw [List.append_assoc]
        exact newline?_escaped hc _

/-- A written character of a block is read back; it is not taken for a continued line. -/
lemma read_blockPiece_escaped (c : Char) (rest : List Char) :
    Quoting.basic.blockPiece.read (escaped c ++ rest) = some ([c], rest) := by
  have hread := read_character_escaped c rest
  rcases escaped_cases c with ⟨hc, hplain, -, hslash⟩ | ⟨letter, more, hc, hspace, hfeed, hreturn⟩
  · have hfeed : c ≠ '\n' := by rintro rfl; exact absurd hplain (by decide)
    have hnewline := newline?_escaped hfeed rest
    rw [hc] at hread hnewline ⊢
    simp only [List.singleton_append] at hread hnewline ⊢
    simp [Quoting.blockPiece, hnewline, hslash, hread]
  · have hskip : skipSpace (letter :: (more ++ rest)) = letter :: (more ++ rest) := by
      simp [skipSpace, Skip.ofClass, hspace]
    rw [hc] at hread ⊢
    simp only [List.cons_append] at hread ⊢
    simp [Quoting.blockPiece, Quoting.continued?, hskip, hread,
      newline?_cons_eq_none (c := '\\') (by decide) (by decide),
      newline?_cons_eq_none hfeed hreturn]

/-- **Between threefold quotation marks every text is read back.**  The writer has just written
`run` quotation marks, and the reader owes them to the text. -/
lemma blockBody_escapedBlock {rest : List Char} (hrest : rest.head? ≠ some '"')
    (text : List Char) : ∀ run ≤ 2,
      Quoting.basic.blockBody run (escapedBlock run text ++ (List.replicate 3 '"' ++ rest))
        = some (List.replicate run '"' ++ text, rest) := by
  induction text with
  | nil =>
      intro run hrun
      rw [escapedBlock, List.nil_append, List.append_nil]
      exact blockBody_closing .basic hrun hrest
  | cons c text ih =>
      intro run hrun
      rw [escapedBlock]
      split_ifs with hquote htwo hfeed
      · subst hquote
        have hcount : List.replicate run '"' ++ '"' :: text
            = List.replicate (run + 1) '"' ++ text := by
          rw [List.replicate_succ', List.append_assoc, List.singleton_append]
        rw [List.cons_append, hcount, ← ih _ (by omega)]
        exact blockBody_mark .basic htwo _
      · -- the third mark in a row is written as an escape, and the count begins again
        subst hquote
        exact blockBody_piece .basic (by simp [Quoting.basic])
          (read_blockPiece_escaped '"' _) (ih 0 (by omega))
      · subst hfeed
        exact blockBody_piece .basic (by simp [Quoting.basic])
          (read_blockPiece_newline ..) (ih 0 (by omega))
      · rw [List.append_assoc]
        exact blockBody_piece .basic (head_escaped_ne_mark c _)
          (read_blockPiece_escaped c _) (ih 0 (by omega))

lemma le_longestRunFrom (mark : Char) (text : List Char) :
    ∀ current, current ≤ longestRunFrom mark current text := by
  induction text with
  | nil => intro current; exact Nat.le_refl _
  | cons c text ih =>
      intro current
      rw [longestRunFrom]
      split_ifs
      · exact Nat.le_trans (Nat.le_succ _) (ih _)
      · exact Nat.le_max_left _ _

/-- A text whose longest run of a mark is empty does not hold the mark. -/
lemma ne_of_longestRun_eq_zero {mark : Char} {text : List Char}
    (h : longestRun mark text ≤ 0) : ∀ c ∈ text, c ≠ mark := by
  induction text with
  | nil => simp
  | cons c text ih =>
      rw [longestRun, longestRunFrom] at h
      split_ifs at h with hc
      · have := le_longestRunFrom mark text (0 + 1)
        omega
      · exact List.forall_mem_cons.mpr ⟨hc, ih (by rw [longestRun]; omega)⟩

/-- A plain character of a block between apostrophes is read back. -/
lemma read_blockPiece_verbatim {c : Char} (hplain : isPlain c = true) (hmark : c ≠ '\'')
    (rest : List Char) : Quoting.literal.blockPiece.read (c :: rest) = some ([c], rest) := by
  have hfeed : c ≠ '\n' := by rintro rfl; exact absurd hplain (by decide)
  have hreturn : c ≠ '\r' := by rintro rfl; exact absurd hplain (by decide)
  simp [Quoting.blockPiece, Quoting.character, Quoting.literal,
    newline?_cons_eq_none hfeed hreturn, hplain, hmark]

/-- **Between threefold apostrophes a text is read back** that holds no control character but line
feeds, and nowhere three apostrophes in a row.  `run` apostrophes have just been passed. -/
lemma blockBody_verbatim {rest : List Char} (hrest : rest.head? ≠ some '\'')
    {text : List Char} (hplain : ∀ c ∈ text, isPlain c = true ∨ c = '\n') : ∀ run : ℕ,
      longestRunFrom '\'' run text ≤ 2 →
      Quoting.literal.blockBody run (text ++ (List.replicate 3 '\'' ++ rest))
        = some (List.replicate run '\'' ++ text, rest) := by
  induction text with
  | nil =>
      intro run hrun
      rw [List.nil_append, List.append_nil]
      exact blockBody_closing .literal hrun hrest
  | cons c text ih =>
      intro run hrun
      obtain ⟨hc, htext⟩ := List.forall_mem_cons.mp hplain
      rw [longestRunFrom] at hrun
      split_ifs at hrun with hmark
      · subst hmark
        have hle := le_longestRunFrom '\'' text (run + 1)
        have hcount : List.replicate run '\'' ++ '\'' :: text
            = List.replicate (run + 1) '\'' ++ text := by
          rw [List.replicate_succ', List.append_assoc, List.singleton_append]
        rw [List.cons_append, hcount, ← ih htext _ hrun]
        exact blockBody_mark .literal (by omega) _
      · have hread : Quoting.literal.blockPiece.read
            (c :: (text ++ (List.replicate 3 '\'' ++ rest)))
              = some ([c], text ++ (List.replicate 3 '\'' ++ rest)) := by
          rcases hc with hc | rfl
          · exact read_blockPiece_verbatim hc hmark _
          · exact read_blockPiece_newline ..
        exact blockBody_piece .literal (by simpa [Quoting.literal] using hmark)
          hread (ih htext 0 (by omega))

/-! ## The four forms -/

/-- A text within a line is recognised: its opening is no threefold mark, not even when it is
empty. -/
lemma read_text_of_lineBody (quoting : Quoting) {body text rest : List Char}
    (hbody : quoting.lineBody (body ++ quoting.mark :: rest) = some (text, rest))
    (hhead : body.head? ≠ some quoting.mark) (hrest : rest.head? ≠ some quoting.mark) :
    quoting.text.read (quoting.mark :: (body ++ quoting.mark :: rest))
      = some (String.ofList text, rest) := by
  have hopen : quoting.openBlock? (quoting.mark :: (body ++ quoting.mark :: rest)) = none := by
    cases body with
    | nil => cases rest <;> simp_all [Quoting.openBlock?]
    | cons c body => cases body <;> simp_all [Quoting.openBlock?]
  simp [Quoting.text, Reader.orElse, Quoting.block, Quoting.line, hopen, hbody]

/-- A block is recognised by its opening.  If its text has a line feed, one more is written behind
the opening; otherwise the body must not begin with a line end, which would be dropped. -/
lemma read_text_of_blockBody (quoting : Quoting) {opening body text rest : List Char}
    (hbody : quoting.blockBody 0 body = some (text, rest))
    (hopening : opening = ['\n'] ∨ opening = [] ∧ newline? body = none) :
    quoting.text.read (List.replicate 3 quoting.mark ++ (opening ++ body))
      = some (String.ofList text, rest) := by
  have hstart : (newline? (opening ++ body)).getD (opening ++ body) = body := by
    rcases hopening with rfl | ⟨rfl, hnone⟩
    · rfl
    · rw [List.nil_append, hnone, Option.getD_none]
  simp [Quoting.text, Reader.orElse, Quoting.block, Quoting.openBlock?, List.replicate_succ,
    hstart, hbody]

/-- What does not begin with the mark is no quoted text. -/
lemma read_text_eq_none (quoting : Quoting) {c : Char} (hc : c ≠ quoting.mark)
    (rest : List Char) : quoting.text.read (c :: rest) = none := by
  have hopen : quoting.openBlock? (c :: rest) = none := by
    unfold Quoting.openBlock?
    split <;> simp_all
  simp [Quoting.text, Reader.orElse, Quoting.block, Quoting.line, hopen, hc]

/-- What a form writes in front of a body: one line feed if the block has several lines. -/
lemma Form.write_append (form : Form) (text rest : List Char) :
    form.write text ++ rest
      = form.marks ++ ((if form.block ∧ text.contains '\n' then ['\n'] else [])
          ++ (form.body text ++ (form.marks ++ rest))) := by
  simp [Form.write, List.append_assoc]

lemma read_basic_line {rest : List Char} (hrest : rest.head? ≠ some '"') (text : List Char) :
    Quoting.basic.text.read ((⟨.basic, false⟩ : Form).write text ++ rest)
      = some (String.ofList text, rest) := by
  have hhead : (escapedLine text).head? ≠ some '"' := by
    cases text with
    | nil => simp [escapedLine]
    | cons c text => exact head_escaped_ne_mark c _
  rw [Form.write_append]
  exact read_text_of_lineBody .basic (lineBody_escapedLine text rest) hhead hrest

lemma read_basic_block {rest : List Char} (hrest : rest.head? ≠ some '"') (text : List Char) :
    Quoting.basic.text.read ((⟨.basic, true⟩ : Form).write text ++ rest)
      = some (String.ofList text, rest) := by
  rw [Form.write_append]
  refine read_text_of_blockBody .basic
    (blockBody_escapedBlock hrest text 0 (by omega)) ?_
  by_cases hfeed : '\n' ∈ text
  · simp [hfeed]
  · exact Or.inr ⟨by simp [hfeed], newline?_escapedBlock hfeed _⟩

/-- What a text between apostrophes must be, in words of its characters. -/
lemma plain_of_suits {form : Form} {text : List Char} (h : form.suits text = true) :
    (∀ c ∈ text, isPlain c = true ∨ c = '\n') ∧ (form.block = false → '\n' ∉ text)
      ∧ longestRun form.quoting.mark text ≤ if form.block then 2 else 0 := by
  simp only [Form.suits, Bool.and_eq_true, List.all_eq_true, Bool.or_eq_true, decide_eq_true_eq,
    Bool.not_eq_true', List.contains_eq_mem, decide_eq_false_iff_not] at h
  obtain ⟨⟨⟨hplain, -⟩, hfeed⟩, hrun⟩ := h
  exact ⟨hplain, fun hblock => hfeed.resolve_left (by simp [hblock]), hrun⟩

lemma read_literal_line {rest : List Char} (hrest : rest.head? ≠ some '\'') {text : List Char}
    (hsuits : (⟨.literal, false⟩ : Form).suits text = true) :
    Quoting.literal.text.read ((⟨.literal, false⟩ : Form).write text ++ rest)
      = some (String.ofList text, rest) := by
  obtain ⟨hplain, hfeed, hrun⟩ := plain_of_suits hsuits
  have hmark : ∀ c ∈ text, c ≠ '\'' := ne_of_longestRun_eq_zero hrun
  have hverbatim : ∀ c ∈ text, isPlain c = true ∧ c ≠ '\'' := by
    intro c hc
    refine ⟨(hplain c hc).resolve_right ?_, hmark c hc⟩
    rintro rfl
    exact hfeed rfl hc
  have hhead : text.head? ≠ some '\'' :=
    fun h => hmark _ (List.mem_of_head? h) rfl
  rw [Form.write_append]
  exact read_text_of_lineBody .literal (lineBody_verbatim text rest hverbatim)
    hhead hrest

lemma read_literal_block {rest : List Char} (hrest : rest.head? ≠ some '\'') {text : List Char}
    (hsuits : (⟨.literal, true⟩ : Form).suits text = true) :
    Quoting.literal.text.read ((⟨.literal, true⟩ : Form).write text ++ rest)
      = some (String.ofList text, rest) := by
  obtain ⟨hplain, -, hrun⟩ := plain_of_suits hsuits
  rw [Form.write_append]
  refine read_text_of_blockBody .literal
    (blockBody_verbatim hrest hplain 0 hrun) ?_
  by_cases hfeed : '\n' ∈ text
  · simp [hfeed]
  · right
    refine ⟨by simp [hfeed], ?_⟩
    cases text with
    | nil => rfl
    | cons c text =>
        have hc : c ≠ '\n' := by rintro rfl; exact hfeed List.mem_cons_self
        have hreturn : c ≠ '\r' := by
          rintro rfl
          exact absurd (hplain _ List.mem_cons_self) (by decide)
        exact newline?_cons_eq_none hc hreturn _

/-- The form of a text: between quotation marks, where any text can stand, or between apostrophes if
they suit it. -/
lemma Form.of_cases (text : List Char) :
    ∃ block, Form.of text = ⟨.basic, block⟩
      ∨ Form.of text = ⟨.literal, block⟩ ∧ (⟨.literal, block⟩ : Form).suits text = true := by
  unfold Form.of
  cases hfind : Form.all.find? fun form => form.suits text with
  | none => exact ⟨text.contains '\n', Or.inl rfl⟩
  | some form =>
      have hmem := List.mem_of_find?_eq_some hfind
      have hsuits := List.find?_some hfind
      simp only [Form.all, List.mem_cons, List.not_mem_nil, or_false] at hmem
      rcases hmem with rfl | rfl | rfl | rfl
      · exact ⟨false, Or.inl rfl⟩
      · exact ⟨false, Or.inr ⟨rfl, hsuits⟩⟩
      · exact ⟨true, Or.inl rfl⟩
      · exact ⟨true, Or.inr ⟨rfl, hsuits⟩⟩

/-- **A written text is read back**, whatever it holds, in front of anything that does not begin
with a mark of either kind. -/
theorem read_quotedText_write (text : List Char) {rest : List Char}
    (hquote : rest.head? ≠ some '"') (hapostrophe : rest.head? ≠ some '\'') :
    quotedText.read ((Form.of text).write text ++ rest) = some (String.ofList text, rest) := by
  obtain ⟨block, hform | ⟨hform, hsuits⟩⟩ := Form.of_cases text
  · have hread : Quoting.basic.text.read ((Form.of text).write text ++ rest)
        = some (String.ofList text, rest) := by
      rw [hform]
      cases block with
      | false => exact read_basic_line hquote text
      | true => exact read_basic_block hquote text
    simp [quotedText, Reader.orElse, hread]
  · have hread : Quoting.literal.text.read ((Form.of text).write text ++ rest)
        = some (String.ofList text, rest) := by
      rw [hform]
      cases block with
      | false => exact read_literal_line hapostrophe hsuits
      | true => exact read_literal_block hapostrophe hsuits
    -- the opening apostrophe is refused where a quotation mark is expected
    have hrefuse : Quoting.basic.text.read ((Form.of text).write text ++ rest) = none := by
      rw [hform, Form.write_append]
      cases block <;> exact read_text_eq_none .basic (by decide) _
    simp [quotedText, Reader.orElse, hrefuse, hread]

end CommentSeparator.Toml
