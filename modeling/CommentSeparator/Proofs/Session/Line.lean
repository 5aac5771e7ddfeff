import CommentSeparator.Session
import Mathlib.Tactic.Common

/-!
# Lines and labels

What a session reads is cut in two steps: the input into lines, and the end off each line.  Both are
described here without saying how they are done.

**Lines.**  `IsLines` says which lines make up an input.  There is one way to cut it, and
`inputLines` finds it (`isLines_iff`).

**Labels.**  `IsLabel` says which label a line holds: one line feed is taken off its end, and one
carriage return before that, and nothing else.  A line that is no text has no label, every other
line has one (`label?_eq_some_iff`).

**An input that is text is text line by line** (`exists_label_of_decode?`), because the octet of a
line feed occurs in no other character.
-/

namespace CommentSeparator.Session

open Text (encode decode?)

/-! ## Lines -/

/-- The lines of an input.  None is empty, and line feeds stand at the end of lines only: of every
line, but perhaps not of the last. -/
structure IsLines (input : List UInt8) (lines : List (List UInt8)) : Prop where
  flatten : lines.flatten = input
  nonempty : ∀ line ∈ lines, line ≠ []
  inner : ∀ line ∈ lines, 10 ∉ line.dropLast
  ended : ∀ line ∈ lines.dropLast, line.getLast? = some 10

/-- What is behind a line feed begins a new line. -/
lemma inputLines_append_lineFeed {body : List UInt8} (hbody : 10 ∉ body) (rest : List UInt8) :
    inputLines (body ++ 10 :: rest) = (body ++ [10]) :: inputLines rest := by
  induction body with
  | nil => simp [inputLines]
  | cons octet body ih =>
      rw [List.mem_cons, not_or] at hbody
      obtain ⟨hoctet, hbody⟩ := hbody
      rw [List.cons_append, inputLines, if_neg (Ne.symm hoctet), ih hbody]
      rfl

/-- What has no line feed is one line. -/
lemma inputLines_of_notMem {body : List UInt8} (hbody : 10 ∉ body) (hne : body ≠ []) :
    inputLines body = [body] := by
  induction body with
  | nil => exact absurd rfl hne
  | cons octet body ih =>
      rw [List.mem_cons, not_or] at hbody
      obtain ⟨hoctet, hbody⟩ := hbody
      rw [inputLines, if_neg (Ne.symm hoctet)]
      cases body with
      | nil => rfl
      | cons second body => rw [ih hbody (by simp)]

namespace IsLines

variable {input : List UInt8} {line : List UInt8} {lines : List (List UInt8)} {octet : UInt8}

lemma nil : IsLines [] [] := by
  constructor <;> simp

lemma singleton : IsLines [octet] [[octet]] := by
  constructor <;> simp

/-- A line feed in front is a line of its own. -/
lemma cons_lineFeed (h : IsLines input lines) : IsLines (10 :: input) ([10] :: lines) := by
  constructor
  · rw [List.flatten_cons, h.flatten]
    rfl
  · simpa using h.nonempty
  · simpa using h.inner
  · intro line hline
    cases lines with
    | nil => simp at hline
    | cons next more =>
        rw [List.dropLast_cons_cons, List.mem_cons] at hline
        rcases hline with rfl | hline
        · rfl
        · exact h.ended line hline

/-- Any other octet in front belongs to the first line. -/
lemma cons_octet (hoctet : octet ≠ 10) (h : IsLines input (line :: lines)) :
    IsLines (octet :: input) ((octet :: line) :: lines) := by
  have hne := h.nonempty line List.mem_cons_self
  constructor
  · rw [← h.flatten]
    rfl
  · rw [List.forall_mem_cons]
    exact ⟨List.cons_ne_nil _ _, (List.forall_mem_cons.mp h.nonempty).2⟩
  · rw [List.forall_mem_cons]
    refine ⟨?_, (List.forall_mem_cons.mp h.inner).2⟩
    rw [List.dropLast_cons_of_ne_nil hne, List.mem_cons, not_or]
    exact ⟨Ne.symm hoctet, h.inner line List.mem_cons_self⟩
  · intro other hother
    cases lines with
    | nil => simp at hother
    | cons next more =>
        rw [List.dropLast_cons_cons, List.mem_cons] at hother
        rcases hother with rfl | hother
        · rw [List.getLast?_cons, h.ended line (by simp)]
          rfl
        · exact h.ended other (by simp [hother])

/-- What is behind the first line has the other lines. -/
lemma tail (h : IsLines input (line :: lines)) : IsLines lines.flatten lines := by
  constructor
  · rfl
  · exact (List.forall_mem_cons.mp h.nonempty).2
  · exact (List.forall_mem_cons.mp h.inner).2
  · intro other hother
    refine h.ended other ?_
    cases lines with
    | nil => simp at hother
    | cons next more => exact List.mem_cons_of_mem _ hother

/-- The first line ends with a line feed, or it is all there is. -/
lemma first_cases (h : IsLines input (line :: lines)) :
    (∃ body, 10 ∉ body ∧ line = body ++ [10]) ∨ (10 ∉ line ∧ lines = []) := by
  have hne := h.nonempty line List.mem_cons_self
  have hinner := h.inner line List.mem_cons_self
  have hline : line.dropLast ++ [line.getLast hne] = line := List.dropLast_concat_getLast hne
  by_cases hlast : line.getLast hne = 10
  · exact Or.inl ⟨line.dropLast, hinner, by rw [← hlast, hline]⟩
  · refine Or.inr ⟨?_, ?_⟩
    · rw [← hline, List.mem_append, List.mem_singleton, not_or]
      exact ⟨hinner, Ne.symm hlast⟩
    · by_contra hlines
      obtain ⟨next, more, rfl⟩ := List.exists_cons_of_ne_nil hlines
      have hended := h.ended line List.mem_cons_self
      rw [List.getLast?_eq_some_getLast hne] at hended
      exact hlast (Option.some.inj hended)

end IsLines

lemma isLines_inputLines (input : List UInt8) : IsLines input (inputLines input) := by
  induction input with
  | nil => exact IsLines.nil
  | cons octet input ih =>
      rw [inputLines]
      split_ifs with hoctet
      · exact hoctet ▸ ih.cons_lineFeed
      · cases hmore : inputLines input with
        | nil =>
            have hinput := ih.flatten
            rw [hmore] at hinput
            obtain rfl : [] = input := hinput
            exact IsLines.singleton
        | cons next more => exact (hmore ▸ ih).cons_octet hoctet

lemma IsLines.eq_inputLines {input : List UInt8} {lines : List (List UInt8)}
    (h : IsLines input lines) : lines = inputLines input := by
  induction lines generalizing input with
  | nil =>
      obtain rfl : [] = input := h.flatten
      rfl
  | cons line lines ih =>
      rw [← h.flatten, List.flatten_cons]
      rcases h.first_cases with ⟨body, hbody, rfl⟩ | ⟨hline, rfl⟩
      · rw [List.append_assoc, List.singleton_append, inputLines_append_lineFeed hbody,
          ← ih h.tail]
      · rw [List.flatten_nil, List.append_nil,
          inputLines_of_notMem hline (h.nonempty line List.mem_cons_self)]

/-- The first lines of an input are cut as they were. -/
lemma IsLines.inputLines_take {input : List UInt8} {lines : List (List UInt8)}
    (h : IsLines input lines) (count : ℕ) :
    inputLines (lines.take count).flatten = lines.take count := by
  induction lines generalizing input count with
  | nil => rw [List.take_nil]; rfl
  | cons line lines ih =>
      cases count with
      | zero => rfl
      | succ count =>
          rw [List.take_succ_cons, List.flatten_cons]
          rcases h.first_cases with ⟨body, hbody, rfl⟩ | ⟨hline, rfl⟩
          · rw [List.append_assoc, List.singleton_append, inputLines_append_lineFeed hbody,
              ih h.tail]
          · rw [List.take_nil, List.flatten_nil, List.append_nil,
              inputLines_of_notMem hline (h.nonempty line List.mem_cons_self)]

/-- What is behind the first lines of an input has the other lines. -/
lemma IsLines.drop {input : List UInt8} {lines : List (List UInt8)} (h : IsLines input lines)
    (count : ℕ) : IsLines (lines.drop count).flatten (lines.drop count) := by
  induction count generalizing input lines with
  | zero => exact h.flatten.symm ▸ h
  | succ count ih =>
      cases lines with
      | nil => exact IsLines.nil
      | cons line lines => exact ih h.tail

/-- Behind a line feed, or at the start, what follows is cut into lines on its own. -/
lemma inputLines_append_of_ended {read : List UInt8} (h : ∀ last ∈ read.getLast?, last = 10)
    (rest : List UInt8) : inputLines (read ++ rest) = inputLines read ++ inputLines rest := by
  induction read with
  | nil => rfl
  | cons octet read ih =>
      have hlater : ∀ last ∈ read.getLast?, last = 10 := by
        intro last hlast
        refine h last ?_
        rw [List.getLast?_cons, hlast]
        rfl
      rw [List.cons_append, inputLines, inputLines, ih hlater]
      split_ifs with hoctet
      · rfl
      · cases hlines : inputLines read with
        | cons line lines => rfl
        | nil =>
            -- an octet that is alone is the last one
            have hread := (isLines_inputLines read).flatten
            rw [hlines] at hread
            obtain rfl : [] = read := hread
            exact absurd (h octet rfl) hoctet

/-- **An input is made up of its lines in one way.** -/
theorem isLines_iff {input : List UInt8} {lines : List (List UInt8)} :
    IsLines input lines ↔ lines = inputLines input :=
  ⟨IsLines.eq_inputLines, fun h => h ▸ isLines_inputLines input⟩

/-! ## Labels -/

/-- The label of a line, if the line is text. -/
def label? (line : List UInt8) : Option String :=
  (decode? line).map fun text => String.ofList (stripEnd text.toList)

/-- A line holds a label in front of its end: of a line feed and a carriage return before it, of a
line feed alone, or of nothing if it was not ended. -/
def IsLabel (line : List UInt8) (label : String) : Prop :=
  line = encode (label ++ "\r\n")
    ∨ (line = encode (label ++ "\n") ∧ label.toList.getLast? ≠ some '\r')
    ∨ (line = encode label ∧ label.toList.getLast? ≠ some '\n')

/-- What `stripEnd` leaves, and what it takes off. -/
lemma stripEnd_cases (text : List Char) :
    text = stripEnd text ++ ['\r', '\n']
      ∨ (text = stripEnd text ++ ['\n'] ∧ (stripEnd text).getLast? ≠ some '\r')
      ∨ (text = stripEnd text ∧ text.getLast? ≠ some '\n') := by
  obtain ⟨reversed, rfl⟩ : ∃ reversed : List Char, text = reversed.reverse :=
    ⟨text.reverse, text.reverse_reverse.symm⟩
  unfold stripEnd
  rw [List.reverse_reverse]
  split
  · exact Or.inl (by simp)
  · rename_i rest hrest
    refine Or.inr (Or.inl ⟨by simp, ?_⟩)
    rw [List.getLast?_reverse]
    intro hreturn
    obtain ⟨more, rfl⟩ : ∃ more, rest = '\r' :: more := by
      cases rest with
      | nil => simp at hreturn
      | cons c more => exact ⟨more, by rw [Option.some.inj hreturn]⟩
    exact hrest more rfl
  · rename_i hother
    refine Or.inr (Or.inr ⟨rfl, ?_⟩)
    rw [List.getLast?_reverse]
    intro hfeed
    cases reversed with
    | nil => simp at hfeed
    | cons c more => exact hother more (by rw [Option.some.inj hfeed])

lemma stripEnd_append_return (body : List Char) : stripEnd (body ++ ['\r', '\n']) = body := by
  simp [stripEnd]

lemma stripEnd_append_feed {body : List Char} (h : body.getLast? ≠ some '\r') :
    stripEnd (body ++ ['\n']) = body := by
  rcases stripEnd_cases (body ++ ['\n']) with hcase | ⟨hcase, -⟩ | ⟨-, hcase⟩
  · have hbody : body = stripEnd (body ++ ['\n']) ++ ['\r'] := by
      rw [show ['\r', '\n'] = ['\r'] ++ ['\n'] from rfl, ← List.append_assoc] at hcase
      exact List.append_cancel_right hcase
    exact absurd (by rw [hbody]; simp) h
  · exact (List.append_cancel_right hcase).symm
  · simp at hcase

lemma stripEnd_of_unended {body : List Char} (h : body.getLast? ≠ some '\n') :
    stripEnd body = body := by
  rcases stripEnd_cases body with hcase | ⟨hcase, -⟩ | ⟨hcase, -⟩
  · exact absurd (by rw [hcase]; simp) h
  · exact absurd (by rw [hcase]; simp) h
  · exact hcase.symm

/-- **A line is text with a label, or it is no text.** -/
theorem label?_eq_some_iff {line : List UInt8} {label : String} :
    label? line = some label ↔ IsLabel line label := by
  constructor
  · intro h
    obtain ⟨text, htext, hlabel⟩ := Option.map_eq_some_iff.mp h
    obtain rfl := Text.decode?_eq_some_iff.mp htext
    have hstrip : label.toList = stripEnd text.toList := by rw [← hlabel, String.toList_ofList]
    have hcases := stripEnd_cases text.toList
    rw [← hstrip] at hcases
    have hjoin : ∀ ending : String, text.toList = label.toList ++ ending.toList →
        encode text = encode (label ++ ending) := by
      intro ending heq
      rw [← String.toList_append] at heq
      rw [String.toList_inj.mp heq]
    rcases hcases with hcase | ⟨hcase, hlast⟩ | ⟨hcase, hlast⟩
    · exact Or.inl (hjoin _ hcase)
    · exact Or.inr (Or.inl ⟨hjoin _ hcase, hlast⟩)
    · obtain rfl := String.toList_inj.mp hcase
      exact Or.inr (Or.inr ⟨rfl, hlast⟩)
  · rintro (rfl | ⟨rfl, hlast⟩ | ⟨rfl, hlast⟩) <;> rw [label?, Text.decode?_encode, Option.map_some]
    · rw [String.toList_append, show "\r\n".toList = ['\r', '\n'] from rfl,
        stripEnd_append_return, String.ofList_toList]
    · rw [String.toList_append, show "\n".toList = ['\n'] from rfl, stripEnd_append_feed hlast,
        String.ofList_toList]
    · rw [stripEnd_of_unended hlast, String.ofList_toList]

lemma label?_eq_none_iff {line : List UInt8} : label? line = none ↔ decode? line = none := by
  rw [label?, Option.map_eq_none_iff]

/-! ## An input that is text -/

lemma encode_singleton (c : Char) : encode (String.ofList [c]) = String.utf8EncodeChar c := by
  simp [encode, List.utf8Encode_singleton]

lemma encode_ofList_cons (c : Char) (text : List Char) :
    encode (String.ofList (c :: text))
      = String.utf8EncodeChar c ++ encode (String.ofList text) := by
  rw [← List.singleton_append, String.ofList_append, Text.encode_append, encode_singleton]

/-- The octet of a line feed occurs in no other character. -/
lemma eq_lineFeed_of_mem {c : Char} (h : 10 ∈ String.utf8EncodeChar c) : c = '\n' := by
  have hvalue : ∀ {n : ℕ}, (10 : UInt8) = UInt8.ofNat n → n % 256 = 10 := fun heq =>
    (congrArg UInt8.toNat heq).symm
  unfold String.utf8EncodeChar at h
  simp only at h
  split_ifs at h
  · rw [List.mem_singleton] at h
    have hc := hvalue h
    exact Char.ext (UInt32.toNat_inj.mp (show c.val.toNat = 10 by omega))
  -- every octet of a longer character is at least 0x80
  all_goals
    simp only [List.mem_cons, List.not_mem_nil, or_false] at h
  · rcases h with h | h <;> have := hvalue h <;> omega
  · rcases h with h | h | h <;> have := hvalue h <;> omega
  · rcases h with h | h | h | h <;> have := hvalue h <;> omega

/-- Octets without a line feed lengthen the line behind them. -/
lemma inputLines_append {body : List UInt8} (hbody : 10 ∉ body) (hne : body ≠ [])
    (rest : List UInt8) :
    inputLines (body ++ rest)
      = (body ++ (inputLines rest).headD []) :: (inputLines rest).tail := by
  induction body with
  | nil => exact absurd rfl hne
  | cons octet body ih =>
      rw [List.mem_cons, not_or] at hbody
      obtain ⟨hoctet, hbody⟩ := hbody
      rw [List.cons_append, inputLines, if_neg (Ne.symm hoctet)]
      cases body with
      | nil =>
          rw [List.nil_append]
          cases inputLines rest <;> rfl
      | cons second body =>
          rw [ih hbody (by simp)]
          rfl

lemma exists_encode_of_mem (text : List Char) :
    ∀ line ∈ inputLines (encode (String.ofList text)), ∃ t, line = encode t := by
  induction text with
  | nil =>
      intro line hline
      simp [inputLines] at hline
  | cons c text ih =>
      rw [encode_ofList_cons]
      by_cases hc : c = '\n'
      · subst hc
        intro line hline
        rcases List.mem_cons.mp hline with rfl | hline
        · exact ⟨"\n", rfl⟩
        · exact ih line hline
      · have hfeed : 10 ∉ String.utf8EncodeChar c := fun h => hc (eq_lineFeed_of_mem h)
        have hne : String.utf8EncodeChar c ≠ [] := String.utf8EncodeChar_ne_nil
        rw [inputLines_append hfeed hne]
        intro line hline
        rcases List.mem_cons.mp hline with rfl | hline
        · cases hmore : inputLines (encode (String.ofList text)) with
          | nil =>
              refine ⟨String.ofList [c], ?_⟩
              rw [encode_singleton, List.headD_nil, List.append_nil]
          | cons next more =>
              obtain ⟨t, ht⟩ := ih next (by rw [hmore]; exact List.mem_cons_self)
              refine ⟨String.ofList (c :: t.toList), ?_⟩
              rw [encode_ofList_cons, String.ofList_toList, ← ht]
              rfl
        · exact ih line (List.mem_of_mem_tail hline)

/-- **An input that is text is text line by line.** -/
theorem exists_label_of_decode? {input : List UInt8} {text : String}
    (h : decode? input = some text) :
    ∀ line ∈ inputLines input, ∃ label, label? line = some label := by
  intro line hline
  obtain rfl := Text.decode?_eq_some_iff.mp h
  rw [← String.ofList_toList (s := text)] at hline
  obtain ⟨t, rfl⟩ := exists_encode_of_mem text.toList line hline
  exact ⟨_, by rw [label?, Text.decode?_encode]; rfl⟩

end CommentSeparator.Session
