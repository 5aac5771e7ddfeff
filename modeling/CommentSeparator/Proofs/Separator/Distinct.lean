import CommentSeparator.Proofs.Separator.Filled

/-!
# What a line tells of its label

Labels are not checked.  One may end with dashes and spaces, read like an end marker, or repeat the
delimiters, and the dashes behind it depend on its length.  A line tells it all the same.

**Behind what is shown stand only dashes.**  What is shown of a label is nothing, or the label
between two spaces; it never ends with a dash.  So the dashes that fill the line can be taken off
again without knowing how many there are, and two filled lines with the same ends show the same
(`filledLine_eq_iff`).  From there on it is only asked what is shown, and `shownLabel_eq_iff`
answers that.

This gives two results: a rendering determines its request, unless the regions of the style lose
their labels (`render_eq_iff`), and the two policies give the same lines only where they decide
alike (`policies_agree_iff`).  Neither asks where the counts go round, because the dashes come off
whatever their number is.
-/

namespace CommentSeparator

/-! ## Taking the dashes off -/

/-- What is made of dashes alone and stands at an end that is not a dash is nothing. -/
lemma eq_nil_of_dashes {text more rest : List Char} {count : ℕ}
    (hdashes : List.replicate count '-' = more ++ rest)
    (hend : (text ++ more).getLast? ≠ some '-') : more = [] := by
  by_contra hne
  have hmem : more.getLast hne ∈ List.replicate count '-' := by
    rw [hdashes]
    exact List.mem_append_left _ (List.getLast_mem hne)
  rw [List.getLast?_append, List.getLast?_eq_some_getLast hne,
    List.eq_of_mem_replicate hmem] at hend
  exact hend rfl

/-- Texts that do not end with a dash are equal if they are with dashes behind them. -/
lemma eq_of_append_dashes {xs ys : List Char} {m n : ℕ}
    (h : xs ++ List.replicate m '-' = ys ++ List.replicate n '-')
    (hxs : xs.getLast? ≠ some '-') (hys : ys.getLast? ≠ some '-') : xs = ys := by
  -- the longer of the two has something more, which is made of dashes
  rcases List.append_eq_append_iff.mp h with ⟨more, rfl, hdashes⟩ | ⟨more, rfl, hdashes⟩
  · rw [eq_nil_of_dashes hdashes hys, List.append_nil]
  · rw [eq_nil_of_dashes hdashes hxs, List.append_nil]

/-! ## What is shown -/

/-- What is shown of a label ends with a space, if anything is shown. -/
lemma getLast?_shownLabel (leftOut : Bool) (label : String) :
    (shownLabel leftOut label).toList.getLast? ≠ some '-' := by
  cases leftOut with
  | true => simp [shownLabel]
  | false =>
      have hshown : (shownLabel false label).toList = " ".toList ++ label.toList ++ [' '] := by
        simp [shownLabel, spaced]
      rw [hshown, List.getLast?_concat]
      decide

/-- Two labels are shown alike if both are left out, or neither is and they are the same. -/
lemma shownLabel_eq_iff {leftOut leftOut' : Bool} {label label' : String} :
    shownLabel leftOut label = shownLabel leftOut' label'
      ↔ leftOut = leftOut' ∧ (leftOut = false → label = label') := by
  have hne : ∀ text, spaced text ≠ "" := by
    intro text h
    simpa [spaced] using congrArg String.length h
  have hspaced : spaced label = spaced label' ↔ label = label' := by
    simp only [spaced, String.append_left_inj, String.append_right_inj]
  cases leftOut <;> cases leftOut' <;> simp [shownLabel, hspaced, hne, (hne _).symm]

/-- Where empty labels are left out and no others, what is shown determines the label. -/
lemma shownLabel_isEmpty_eq_iff {label other : String} :
    shownLabel label.isEmpty label = shownLabel other.isEmpty other ↔ label = other := by
  rw [shownLabel_eq_iff]
  constructor
  · rintro ⟨hempty, hsame⟩
    by_cases hlabel : label = ""
    · subst hlabel
      exact (String.isEmpty_iff.mp hempty.symm).symm
    · exact hsame (by simpa using hlabel)
  · rintro rfl
    exact ⟨rfl, fun _ => rfl⟩

/-- **A line shows what it shows.**  Lines with the same opening and the same ending, filled up to
the same limit, are equal only if they show the same. -/
lemma filledLine_eq_iff {limit : ℤ} {opening ending : String} {leftOut leftOut' : Bool}
    {label label' : String} :
    filledLine limit (opening ++ shownLabel leftOut label) ending
        = filledLine limit (opening ++ shownLabel leftOut' label') ending
      ↔ shownLabel leftOut label = shownLabel leftOut' label' := by
  refine ⟨fun h => ?_, fun h => by rw [h]⟩
  rw [filledLine, filledLine, String.append_left_inj, String.append_assoc, String.append_assoc,
    String.append_right_inj] at h
  have hchars := congrArg String.toList h
  simp only [String.toList_append, dashRun, String.toList_ofList] at hchars
  exact String.toList_inj.mp
    (eq_of_append_dashes hchars (getLast?_shownLabel _ _) (getLast?_shownLabel _ _))

/-! ## Labels and lines -/

attribute [ext] RegionPair

lemma RegionPair.toList_inj {lines lines' : RegionPair} :
    lines.toList = lines'.toList ↔ lines = lines' := by
  simp [toList, RegionPair.ext_iff]

/-- A header determines its label. -/
lemma HeaderStyle.value_line_eq_iff (style : HeaderStyle) {label other : String} :
    (style.line label).value = (style.line other).value ↔ label = other := by
  rw [value_line_eq, value_line_eq, beginning, beginning, filledLine_eq_iff,
    shownLabel_isEmpty_eq_iff]

namespace RegionStyle

/-- Do the regions of the style lose their labels, whatever these are?  That is so under the policy
that counts dashes, if there is exactly no room for any. -/
def LosesLabels (style : RegionStyle) : Prop :=
  style.branch = .dashCount ∧ style.topRoom = 0

/-- A region shows two labels alike only if they are the same, or it shows none at all. -/
lemma shownLabel_leavesOut_eq_iff (style : RegionStyle) {label other : String} :
    shownLabel (style.leavesOut label) label = shownLabel (style.leavesOut other) other
      ↔ style.LosesLabels ∨ label = other := by
  cases hbranch : style.branch with
  | dashCount =>
      rw [shownLabel_eq_iff]
      simp only [leavesOut, BranchPolicy.leavesOut, LosesLabels, hbranch, true_and]
      by_cases hroom : style.topRoom = 0
      · simp [hroom]
      · simp [hroom]
  | label =>
      simp only [leavesOut, BranchPolicy.leavesOut, LosesLabels, hbranch, reduceCtorEq, false_and,
        false_or]
      exact shownLabel_isEmpty_eq_iff

/-- The top line of a region determines its label, unless labels are lost. -/
lemma value_top_eq_iff (style : RegionStyle) {label other : String} :
    (style.lines label).value.top = (style.lines other).value.top
      ↔ style.LosesLabels ∨ label = other := by
  rw [value_top_eq, value_top_eq, beginning, beginning, filledLine_eq_iff,
    shownLabel_leavesOut_eq_iff]

/-- So does the bottom line. -/
lemma value_bottom_eq_iff (style : RegionStyle) {label other : String} :
    (style.lines label).value.bottom = (style.lines other).value.bottom
      ↔ style.LosesLabels ∨ label = other := by
  rw [value_bottom_eq, value_bottom_eq, beginning, beginning, filledLine_eq_iff,
    shownLabel_leavesOut_eq_iff]

/-- So do both together. -/
lemma value_lines_eq_iff (style : RegionStyle) {label other : String} :
    (style.lines label).value = (style.lines other).value
      ↔ style.LosesLabels ∨ label = other := by
  rw [RegionPair.ext_iff, value_top_eq_iff, value_bottom_eq_iff, and_self]

end RegionStyle

/-- A line that determines its label, unless labels are lost, is injective just if they are not. -/
lemma RegionStyle.injective_iff {style : RegionStyle} {line : String → String}
    (h : ∀ {label other}, line label = line other ↔ style.LosesLabels ∨ label = other) :
    Function.Injective line ↔ ¬ style.LosesLabels := by
  constructor
  · intro hinjective hloses
    have hsame : line "" = line "a" := h.mpr (.inl hloses)
    exact absurd (hinjective hsame) (by decide)
  · intro hkeeps label other hsame
    exact (h.mp hsame).resolve_left hkeeps

/-- Two requests have the same rendering only if they are the same, or both are for regions, and the
style loses their labels. -/
lemma Styles.value_renderRequest_eq_iff (styles : Styles) {request request' : Request} :
    (styles.renderRequest request).value = (styles.renderRequest request').value
      ↔ request = request' ∨ styles.region.LosesLabels ∧ ∃ label label',
        request = .region label ∧ request' = .region label' := by
  cases request with
  | header label =>
      cases request' with
      | header label' => simp [renderRequest_header, styles.header.value_line_eq_iff]
      | region label' => simp [renderRequest_header, renderRequest_region, RegionPair.toList]
  | region label =>
      cases request' with
      | header label' => simp [renderRequest_header, renderRequest_region, RegionPair.toList]
      | region label' =>
          simp [renderRequest_region, RegionPair.toList_inj, styles.region.value_lines_eq_iff,
            or_comm]

/-- **A rendering determines its request**, unless it is the rendering of a region whose style loses
its labels: then the two lines are the same for all labels.  The same holds line by line, for a
header and for each of the two lines of a region.

The counts go round at the ends of 64 bits, and none of this depends on where they do.  Exactly no
room is counted just where the integers leave none, for all delimiters that fit into memory.  Where
every step of a count is checked, what it comes to is the same. -/
theorem render_eq_iff (styles : Styles) (header : HeaderStyle) (region : RegionStyle) :
    (∀ input input', (styles.render input).value = (styles.render input').value
        ↔ Request.ofInput input = Request.ofInput input'
          ∨ styles.region.LosesLabels ∧ ∃ label label',
            Request.ofInput input = .region label ∧ Request.ofInput input' = .region label')
      ∧ (Function.Injective fun label => (header.line label).value)
      ∧ ((Function.Injective fun label => (region.lines label).value.top) ↔ ¬ region.LosesLabels)
      ∧ ((Function.Injective fun label => (region.lines label).value.bottom)
        ↔ ¬ region.LosesLabels)
      ∧ (region.opening.length + region.closing.length + 1 < 0x8000000000000000 →
        (region.LosesLabels ↔ region.branch = .dashCount
          ∧ signedWidth region.width - region.opening.length - region.closing.length - 1 = 0))
      ∧ ((∀ input rendered, Arithmetic.checked.render styles input = some rendered →
          styles.render input = rendered)
        ∧ (∀ label line, Arithmetic.checked.header header label = some line →
          header.line label = line)
        ∧ ∀ label lines, Arithmetic.checked.region region label = some lines →
          region.lines label = lines) := by
  refine ⟨fun input input' => ?_, ?_, ?_, ?_, fun hlengths => ?_, ?_, ?_, ?_⟩
  · exact styles.value_renderRequest_eq_iff
  · intro label label' hsame
    exact header.value_line_eq_iff.mp hsame
  · exact RegionStyle.injective_iff region.value_top_eq_iff
  · exact RegionStyle.injective_iff region.value_bottom_eq_iff
  · exact and_congr_right fun _ => freeRoom_eq_zero_iff hlengths
  · exact fun input rendered hchecked => Styles.render_eq_of_checked hchecked
  · exact fun label line hchecked => HeaderStyle.line_eq_of_checked hchecked
  · exact fun label lines hchecked => RegionStyle.lines_eq_of_checked hchecked

/-- A region that is as wide as its delimiters and one more loses its labels: the checked rendering
of one is the rendering of another. -/
theorem render_eq_iff_of_no_room :
    let styles : Styles := { region := { width := 14 } }
    styles.region.LosesLabels
      ∧ ∃ rendered, Arithmetic.checked.render styles "region x" = some rendered
        ∧ styles.render "region x" = rendered
        ∧ rendered.value = (styles.render "region y").value := by
  intro styles
  have hrequest : Request.ofInput "region x" = .region "x" := by decide
  have hrequest' : Request.ofInput "region y" = .region "y" := by decide
  obtain ⟨hsame, -, -, -, hloses, hchecked, -⟩ := render_eq_iff styles styles.header styles.region
  have hregion : styles.region.LosesLabels := (hloses (by decide)).mpr (by decide)
  have hrendered : (Arithmetic.checked.render styles "region x").isSome := by decide
  obtain ⟨rendered, hrendered⟩ := Option.isSome_iff_exists.mp hrendered
  have heq := hchecked _ _ hrendered
  refine ⟨hregion, rendered, hrendered, heq, ?_⟩
  rw [← heq]
  exact (hsame _ _).mpr (.inr ⟨hregion, "x", "y", hrequest, hrequest'⟩)

/-! ## The two policies -/

/-- The policies show a label alike iff it is empty where there is exactly no room for dashes, and
only there. -/
lemma shownLabel_leavesOut_policies (opening closing : String) (width : UInt64) (label : String) :
    shownLabel (RegionStyle.leavesOut ⟨opening, closing, width, .dashCount⟩ label) label
        = shownLabel (RegionStyle.leavesOut ⟨opening, closing, width, .label⟩ label) label
      ↔ (label = "" ↔ freeRoom width opening closing 1 = 0) := by
  rw [shownLabel_eq_iff, Bool.eq_iff_iff, RegionStyle.leavesOut_iff, RegionStyle.leavesOut_iff]
  simp [RegionStyle.topRoom, iff_comm]

/-- **Where the generators and the policies agree.**  Under the policy that looks at the label, the
top line of a region is the header around the same label.  The other policy gives the same region
iff the label is empty exactly when there is no room for dashes; if it does not, neither of its
lines is the same.

As before, no room is counted just where the integers leave none, and checked counts come to the
same lines.  Under policies that decide alike they have the same outcome, and they come to a header
wherever they come to a region that looks at the label. -/
theorem policies_agree_iff (opening closing : String) (width : UInt64) (label : String) :
    let header := (HeaderStyle.line ⟨opening, closing, width⟩ label).value
    let counting := (RegionStyle.lines ⟨opening, closing, width, .dashCount⟩ label).value
    let looking := (RegionStyle.lines ⟨opening, closing, width, .label⟩ label).value
    let alike := (label = "" ↔ freeRoom width opening closing 1 = 0)
    (looking.top = header
        ∧ (counting = looking ↔ alike)
        ∧ (counting.top = looking.top ↔ alike)
        ∧ (counting.bottom = looking.bottom ↔ alike)
        ∧ (counting.top = header ↔ alike))
      ∧ (opening.length + closing.length + 1 < 0x8000000000000000 →
        (freeRoom width opening closing 1 = 0
          ↔ signedWidth width - opening.length - closing.length - 1 = 0))
      ∧ (∀ line, Arithmetic.checked.header ⟨opening, closing, width⟩ label = some line →
        line.value = header)
      ∧ (∀ lines, Arithmetic.checked.region ⟨opening, closing, width, .dashCount⟩ label
          = some lines → lines.value = counting)
      ∧ (alike → Arithmetic.checked.region ⟨opening, closing, width, .dashCount⟩ label
        = Arithmetic.checked.region ⟨opening, closing, width, .label⟩ label)
      ∧ ∀ lines, Arithmetic.checked.region ⟨opening, closing, width, .label⟩ label = some lines →
        lines.value = looking
          ∧ ∃ line, Arithmetic.checked.header ⟨opening, closing, width⟩ label = some line
            ∧ line.value = lines.value.top := by
  intro header counting looking alike
  have hshown := shownLabel_leavesOut_policies opening closing width label
  have hheader : looking.top = header := by
    have hline := HeaderStyle.value_line_eq ⟨opening, closing, width⟩ label
    exact (RegionStyle.value_top_eq _ label).trans hline.symm
  have htop : counting.top = looking.top ↔ alike := by
    rw [RegionStyle.value_top_eq, RegionStyle.value_top_eq]
    exact filledLine_eq_iff.trans hshown
  have hbottom : counting.bottom = looking.bottom ↔ alike := by
    rw [RegionStyle.value_bottom_eq, RegionStyle.value_bottom_eq]
    exact filledLine_eq_iff.trans hshown
  refine ⟨⟨hheader, ?_, htop, hbottom, hheader ▸ htop⟩, freeRoom_eq_zero_iff,
    fun line hline => ?_, fun lines hlines => ?_, Arithmetic.checked_region_policies,
    fun lines hlines => ?_⟩
  · rw [RegionPair.ext_iff, htop, hbottom, and_self]
  · rw [← HeaderStyle.line_eq_of_checked hline]
  · rw [← RegionStyle.lines_eq_of_checked hlines]
  · have hlooking : lines.value = looking := by rw [← RegionStyle.lines_eq_of_checked hlines]
    obtain ⟨line, hline⟩ := Option.isSome_iff_exists.mp (Arithmetic.isSome_checked_header hlines)
    refine ⟨hlooking, line, hline, ?_⟩
    rw [hlooking, hheader, ← HeaderStyle.line_eq_of_checked hline]

/-- A region that is as wide as its delimiters and one more is the same under both policies if its
label is empty, and its top line is the header. -/
theorem policies_agree_iff_of_no_room :
    let counting := Arithmetic.checked.region ⟨"// +----", "----+", 14, .dashCount⟩ ""
    let looking := Arithmetic.checked.region ⟨"// +----", "----+", 14, .label⟩ ""
    counting = looking
      ∧ ∃ line lines, looking = some lines ∧ line.value = lines.value.top
        ∧ Arithmetic.checked.header ⟨"// +----", "----+", 14⟩ "" = some line := by
  intro counting looking
  obtain ⟨-, hroom, -, -, hpolicies, hheader⟩ := policies_agree_iff "// +----" "----+" 14 ""
  have hzero : freeRoom 14 "// +----" "----+" 1 = 0 := (hroom (by decide)).mpr (by decide)
  have hlooking : looking.isSome := by decide
  obtain ⟨lines, hlines⟩ := Option.isSome_iff_exists.mp hlooking
  obtain ⟨-, line, hline, htop⟩ := hheader lines hlines
  exact ⟨hpolicies (iff_of_true rfl hzero), line, lines, hlines, htop, hline⟩

-- far below zero there is a width for which a header can still be counted, and a region cannot
example :
    (Arithmetic.checked.header ⟨"/* =----", "-= */", 0x8000000000000012⟩ "x").isSome
      ∧ Arithmetic.checked.region ⟨"/* =----", "-= */", 0x8000000000000012, .label⟩ "x" = none := by
  decide

end CommentSeparator
