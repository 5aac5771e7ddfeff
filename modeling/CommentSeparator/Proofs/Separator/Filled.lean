import CommentSeparator.Proofs.Separator.InRange

/-!
# Filled lines

A header and the two lines of a region are made in the same way: what has to stand at the beginning,
what has to stand at the end, and between them dashes up to a **limit**, one less than the width.
`filledLine` says this once, and `HeaderStyle.value_line_eq`, `RegionStyle.value_top_eq` and
`RegionStyle.value_bottom_eq` say that every separator line is one.

The policies of a region decide what stands at the beginning, and nothing else.  The end marker is a
part of the end, so the bottom line is the top line with another end.

**Length.**  Where the dashes are counted in range, a filled line is as long as the limit, or as
long as its two ends if those are longer (`length_filledLine`), and only a line without dashes is
longer than the limit.  What a separator line cannot do without is `leastLength`; `line_lengths`
gives the length of every line by it.
-/

namespace CommentSeparator

/-! ## Filling up to a limit -/

/-- How many dashes fill a line up to the limit: none if there is no room for any. -/
def fillCount (limit : ℤ) (beginning ending : String) : ℕ :=
  (spareRoom limit beginning ending).toNat

/-- A line with the given ends, filled up to the limit. -/
def filledLine (limit : ℤ) (beginning ending : String) : String :=
  beginning ++ dashRun (fillCount limit beginning ending) ++ ending

@[simp]
lemma length_dashRun (count : ℕ) : (dashRun count).length = count := by
  simp [dashRun]

section

variable {limit : ℤ} {beginning ending : String}

/-- **A filled line is as long as its limit**, or as its two ends if they do not fit. -/
lemma length_filledLine
    (hexact : spareRoom limit beginning ending = limit - beginning.length - ending.length) :
    ((filledLine limit beginning ending).length : ℤ)
      = max limit (beginning.length + ending.length) := by
  simp only [filledLine, fillCount, hexact, String.length_append, length_dashRun]
  omega

/-- Only a line without dashes is longer than its limit. -/
lemma fillCount_eq_zero_of_lt
    (hexact : spareRoom limit beginning ending = limit - beginning.length - ending.length)
    (h : limit < (filledLine limit beginning ending).length) :
    fillCount limit beginning ending = 0 := by
  rw [length_filledLine hexact] at h
  rw [fillCount, hexact]
  omega

end

/-! ## Separator lines are filled lines -/

/-- A header is a filled line. -/
lemma HeaderStyle.value_line_eq (style : HeaderStyle) (label : String) :
    (style.line label).value = filledLine style.limit (style.beginning label) style.closing :=
  style.value_line label

namespace RegionStyle

/-- The top line of a region is a filled line. -/
lemma value_top_eq (style : RegionStyle) (label : String) :
    (style.lines label).value.top
      = filledLine style.limit (style.beginning label) style.closing := by
  rw [value_lines]
  rfl

/-- The bottom line of a region is a filled line that ends with the end marker. -/
lemma value_bottom_eq (style : RegionStyle) (label : String) :
    (style.lines label).value.bottom
      = filledLine style.limit (style.beginning label) (endMarker ++ style.closing) := by
  rw [value_lines]
  exact String.append_assoc

/-- When a region leaves a label out: under the one policy if there is exactly no room for dashes,
under the other if there is no label. -/
lemma leavesOut_iff (style : RegionStyle) (label : String) :
    style.leavesOut label
      ↔ style.branch = .dashCount ∧ style.topRoom = 0 ∨ style.branch = .label ∧ label = "" := by
  unfold leavesOut BranchPolicy.leavesOut
  cases style.branch with
  | dashCount => simp
  | label => simp

end RegionStyle

/-! ## How long separator lines are -/

/-- How many characters a header has at least: its delimiters, and a label that is not empty with
the spaces around it. -/
def HeaderStyle.leastLength (style : HeaderStyle) (label : String) : ℤ :=
  style.opening.length + style.closing.length + if label = "" then 0 else (label.length + 2 : ℤ)

/-- How many characters the top line of a region has at least: its delimiters, and a label that is
not left out with the spaces around it. -/
def RegionStyle.leastLength (style : RegionStyle) (label : String) : ℤ :=
  style.opening.length + style.closing.length
    + if style.branch = .dashCount
          ∧ signedWidth style.width - style.opening.length - style.closing.length - 1 = 0
        ∨ style.branch = .label ∧ label = "" then 0
      else (label.length + 2 : ℤ)

lemma HeaderStyle.length_beginning (style : HeaderStyle) (label : String) :
    ((style.beginning label).length : ℤ) = style.leastLength label - style.closing.length := by
  simp only [beginning, leastLength, String.length_append, Int.natCast_add, length_shownLabel,
    String.isEmpty_iff]
  omega

lemma HeaderStyle.InRange.length_line {style : HeaderStyle} {label : String}
    (h : style.InRange label) :
    ((style.line label).value.length : ℤ) = max style.limit (style.leastLength label) := by
  rw [value_line_eq, length_filledLine h.spare_eq, length_beginning]
  omega

namespace RegionStyle.InRange

variable {style : RegionStyle} {label : String} (h : style.InRange label)

include h

lemma length_beginning :
    ((style.beginning label).length : ℤ) = style.leastLength label - style.closing.length := by
  have hleftOut := style.leavesOut_iff label
  rw [h.topRoom_eq] at hleftOut
  simp only [beginning, leastLength, String.length_append, Int.natCast_add, length_shownLabel,
    hleftOut]
  omega

lemma length_top :
    ((style.lines label).value.top.length : ℤ) = max style.limit (style.leastLength label) := by
  rw [value_top_eq, length_filledLine h.spares_eq.1, h.length_beginning]
  omega

lemma length_bottom :
    ((style.lines label).value.bottom.length : ℤ)
      = max style.limit (style.leastLength label + 5) := by
  have hmarker : endMarker.length = 5 := rfl
  rw [value_bottom_eq, length_filledLine h.spares_eq.2, h.length_beginning, String.length_append,
    hmarker]
  omega

/-- The end marker takes the place of dashes, as far as there are any. -/
lemma fillCount_bottom :
    fillCount style.limit (style.beginning label) (endMarker ++ style.closing)
        + min 5 (fillCount style.limit (style.beginning label) style.closing)
      = fillCount style.limit (style.beginning label) style.closing := by
  have hmarker : endMarker.length = 5 := rfl
  obtain ⟨htop, hbottom⟩ := h.spares_eq
  rw [topSpare] at htop
  rw [bottomSpare, String.length_append, hmarker] at hbottom
  rw [fillCount, fillCount, htop, hbottom]
  omega

end RegionStyle.InRange

/-- **Exact lengths.**  Where no count leaves the range of 64 bits, a line is as long as one less
than the width, or as long as the parts that it cannot do without.  The two lines of a region begin
alike; dashes make room for the end marker, and where there are fewer than five of them the bottom
line comes out longer by those that are missing.  A line above the limit has no dashes at all, and
all lines that fit are equally long. -/
theorem line_lengths (header : HeaderStyle) (region : RegionStyle) (label : String) :
    let line := (header.line label).value
    let top := (region.lines label).value.top
    let bottom := (region.lines label).value.bottom
    let least := region.leastLength label
    (header.InRange label →
      (line.length : ℤ) = max header.limit (header.leastLength label)
        ∧ ((header.beginning label).length : ℤ) = header.leastLength label - header.closing.length
        ∧ (∃ fill, line = header.beginning label ++ dashRun fill ++ header.closing
          ∧ (header.limit < line.length → fill = 0))
        ∧ ∀ other, header.InRange other → header.leastLength label ≤ header.limit →
          header.leastLength other ≤ header.limit → (header.line other).value.length = line.length)
      ∧ (region.InRange label →
        ((top.length : ℤ) = max region.limit least
          ∧ (bottom.length : ℤ) = max region.limit (least + 5)
          ∧ ((region.beginning label).length : ℤ) = least - region.closing.length
          ∧ ∃ topFill bottomFill,
            top = region.beginning label ++ dashRun topFill ++ region.closing
            ∧ bottom = region.beginning label ++ dashRun bottomFill ++ " END " ++ region.closing
            ∧ bottomFill + min 5 topFill = topFill
            ∧ (region.limit < top.length → topFill = 0)
            ∧ (region.limit < bottom.length → bottomFill = 0))
        ∧ (top.length ≤ bottom.length ∧ bottom.length ≤ top.length + 5
          ∧ (bottom.length = top.length ↔ least + 5 ≤ region.limit))
        ∧ ∀ other, region.InRange other →
          (least ≤ region.limit → region.leastLength other ≤ region.limit →
            (region.lines other).value.top.length = top.length)
          ∧ (least + 5 ≤ region.limit → region.leastLength other + 5 ≤ region.limit →
            (region.lines other).value.bottom.length = bottom.length)) := by
  intro line top bottom least
  refine ⟨fun hrange => ⟨hrange.length_line, header.length_beginning label, ?_, ?_⟩,
    fun hrange => ?_⟩
  · refine ⟨_, header.value_line_eq label, fun hlong => ?_⟩
    exact fillCount_eq_zero_of_lt hrange.spare_eq (header.value_line_eq label ▸ hlong)
  · intro other hrange' hfits hother
    have hline : (line.length : ℤ) = max header.limit (header.leastLength label) :=
      hrange.length_line
    have hline' := hrange'.length_line
    omega
  · have htop : (top.length : ℤ) = max region.limit least := hrange.length_top
    have hbottom : (bottom.length : ℤ) = max region.limit (least + 5) := hrange.length_bottom
    refine ⟨⟨htop, hbottom, hrange.length_beginning, ?_⟩, ⟨?_, ?_, ?_⟩,
      fun other hrange' => ⟨?_, ?_⟩⟩
    · refine ⟨_, _, region.value_top_eq label, ?_, hrange.fillCount_bottom,
        fun hlong => ?_, fun hlong => ?_⟩
      · exact (region.value_bottom_eq label).trans String.append_assoc.symm
      · exact fillCount_eq_zero_of_lt hrange.spares_eq.1 (region.value_top_eq label ▸ hlong)
      · exact fillCount_eq_zero_of_lt hrange.spares_eq.2 (region.value_bottom_eq label ▸ hlong)
    · omega
    · omega
    · omega
    · intro hfits hother
      have htop' := hrange'.length_top
      omega
    · intro hfits hother
      have hbottom' := hrange'.length_bottom
      omega

/-- With room for three dashes the end marker is too long by two: the top lines of the region are as
long as the width allows, its bottom line is not. -/
theorem line_lengths_of_three_dashes :
    let header : HeaderStyle := { width := 20 }
    let region : RegionStyle := { width := 21 }
    let lines := (region.lines "ab").value
    (header.InRange "ab" ∧ header.InRange "xyz"
        ∧ header.leastLength "ab" ≤ header.limit ∧ header.leastLength "xyz" ≤ header.limit
        ∧ (header.line "xyz").value.length = (header.line "ab").value.length)
      ∧ (region.InRange "ab" ∧ region.InRange "xyz"
        ∧ region.leastLength "ab" ≤ region.limit ∧ region.leastLength "xyz" ≤ region.limit
        ∧ (region.lines "xyz").value.top.length = lines.top.length)
      ∧ (lines.top.length : ℤ) = 20 ∧ (lines.bottom.length : ℤ) = 22
      ∧ lines.bottom = region.beginning "ab" ++ dashRun 0 ++ " END " ++ region.closing := by
  intro header region lines
  have hranges : header.InRange "ab" ∧ header.InRange "xyz" := by decide
  have hranges' : region.InRange "ab" ∧ region.InRange "xyz" := by decide
  have hheader : header.leastLength "ab" ≤ header.limit := by decide
  have hheader' : header.leastLength "xyz" ≤ header.limit := by decide
  have hregion : region.leastLength "ab" ≤ region.limit := by decide
  have hregion' : region.leastLength "xyz" ≤ region.limit := by decide
  obtain ⟨hlines, hregions⟩ := line_lengths header region "ab"
  obtain ⟨-, -, -, hsame⟩ := hlines hranges.1
  obtain ⟨⟨htop, hbottom, -, -, bottomFill, -, hparts, -, -, hbare⟩, -, hfits⟩ :=
    hregions hranges'.1
  have hlong : region.limit < lines.bottom.length := by
    rw [hbottom]
    decide
  refine ⟨⟨hranges.1, hranges.2, hheader, hheader', hsame "xyz" hranges.2 hheader hheader'⟩,
    ⟨hranges'.1, hranges'.2, hregion, hregion', (hfits "xyz" hranges'.2).1 hregion hregion'⟩,
    htop.trans (by decide), hbottom.trans (by decide), ?_⟩
  rw [hparts, hbare hlong]

end CommentSeparator
