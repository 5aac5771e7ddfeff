/-!
# Blank characters and trimming

A label is trimmed of blanks at both ends.  A character is blank when it has the Unicode property
White_Space: the ten ranges of `blankRanges`, and nothing else.

* `isBlank` — the property, by table look-up.
* `trim` — the text without the blanks at its two ends; `trim_eq` says what was cut away.
-/

namespace CommentSeparator.Text

/-- The code points with the property White_Space, as closed ranges in ascending order. -/
def blankRanges : List (Nat × Nat) :=
  [(0x9, 0xD), (0x20, 0x20), (0x85, 0x85), (0xA0, 0xA0), (0x1680, 0x1680), (0x2000, 0x200A),
    (0x2028, 0x2029), (0x202F, 0x202F), (0x205F, 0x205F), (0x3000, 0x3000)]

/-- Does the code point of `c` lie in one of the closed ranges? -/
def inRanges (ranges : List (Nat × Nat)) (c : Char) : Bool :=
  ranges.any fun range => range.1 ≤ c.toNat && c.toNat ≤ range.2

/-- A character is blank when it has the property White_Space. -/
def isBlank (c : Char) : Bool :=
  inRanges blankRanges c

/-- The text from its last non-blank character on dropped: blanks at the end are cut off. -/
def trimEnd (text : List Char) : List Char :=
  (text.reverse.dropWhile isBlank).reverse

/-- The text without the blanks at its two ends; inner blanks stay. -/
def trim (text : List Char) : List Char :=
  trimEnd (text.dropWhile isBlank)

/-- Cutting the end takes away a run of blanks and nothing else. -/
theorem trimEnd_eq (text : List Char) :
    ∃ cut, text = trimEnd text ++ cut ∧ ∀ c ∈ cut, isBlank c := by
  refine ⟨(text.reverse.takeWhile isBlank).reverse, ?_, ?_⟩
  · rw [trimEnd, ← List.reverse_append, List.takeWhile_append_dropWhile, List.reverse_reverse]
  · intro c hc
    rw [List.mem_reverse] at hc
    exact List.all_eq_true.1 List.all_takeWhile c hc

/-- **What trimming cuts away**: a run of blanks at either end. -/
theorem trim_eq (text : List Char) :
    ∃ before after, text = before ++ trim text ++ after ∧
      (∀ c ∈ before, isBlank c) ∧ ∀ c ∈ after, isBlank c := by
  obtain ⟨after, hcut, hafter⟩ := trimEnd_eq (text.dropWhile isBlank)
  refine ⟨text.takeWhile isBlank, after, ?_, ?_, hafter⟩
  · rw [trim, List.append_assoc, ← hcut, List.takeWhile_append_dropWhile]
  · exact fun c hc => List.all_eq_true.1 List.all_takeWhile c hc

end CommentSeparator.Text
