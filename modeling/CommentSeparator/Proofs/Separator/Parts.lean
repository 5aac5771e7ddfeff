import CommentSeparator.Request
import Mathlib.Data.Int.Notation
import Mathlib.Tactic.Common

/-!
# The parts of separator lines

Every separator line is put together from the same parts: the opening delimiter, what it shows of
the label, dashes, for the end of a region the end marker, and the closing delimiter.  Whether a
line is a header or belongs to a region, and by which policy its label is left out, only decides
what is shown and how many dashes there are (`HeaderStyle.value_line`, `RegionStyle.value_lines`).

**A line without line feeds** comes out if the delimiters and the input have none, because every
character of a label stands in the input it was read from (`Request.mem_label_ofInput`), and the
other parts are fixed.
-/

namespace CommentSeparator

/-! ## Lines -/

/-- What a line shows of a label. -/
def shownLabel (leftOut : Bool) (label : String) : String :=
  if leftOut then "" else spaced label

lemma length_spaced (label : String) : ((spaced label).length : ℤ) = label.length + 2 := by
  have hspace : " ".length = 1 := rfl
  simp only [spaced, String.length_append, hspace]
  omega

/-- How many characters a line takes to show a label. -/
lemma length_shownLabel (leftOut : Bool) (label : String) :
    ((shownLabel leftOut label).length : ℤ) = if leftOut then 0 else (label.length + 2 : ℤ) := by
  cases leftOut with
  | true => rfl
  | false => exact length_spaced label

/-- The room for dashes that a limit leaves between two ends. -/
def spareRoom (limit : ℤ) (beginning ending : String) : ℤ :=
  signed64 (limit - beginning.length - ending.length)

/-- What is reserved besides the delimiters is the room of a marker and one character, which stays
free.  So the room for dashes is what the two ends leave of one less than the width, and the marker
belongs to the ending. -/
lemma freeRoom_eq_spareRoom (width : UInt64) (opening closing marker : String) :
    freeRoom width opening closing (marker.length + 1)
      = spareRoom (signedWidth width - 1) opening (marker ++ closing) := by
  rw [freeRoom_eq, spareRoom, String.length_append]
  congr 1
  omega

/-- Whether there is exactly no room is not changed by going round, because no delimiters are so
long that the count could go all the way round. -/
lemma freeRoom_eq_zero_iff {width : UInt64} {opening closing : String}
    (h : opening.length + closing.length + 1 < 0x8000000000000000) :
    freeRoom width opening closing 1 = 0
      ↔ signedWidth width - opening.length - closing.length - 1 = 0 := by
  have hwidth := isSigned64_signedWidth width
  unfold IsSigned64 at hwidth
  rw [freeRoom_eq, signed64_eq]
  omega

/-- A label that is put in belongs to the beginning. -/
lemma signed64_spareRoom_sub (limit : ℤ) (opening ending label : String) :
    signed64 (spareRoom limit opening ending - (label.length + 2))
      = spareRoom limit (opening ++ spaced label) ending := by
  simp only [spareRoom, signed64_signed64_sub, String.length_append, Int.natCast_add,
    length_spaced]
  congr 1
  omega

/-- How long a header of the style may be. -/
def HeaderStyle.limit (style : HeaderStyle) : ℤ :=
  signedWidth style.width - 1

/-- What stands at the beginning of a header. -/
def HeaderStyle.beginning (style : HeaderStyle) (label : String) : String :=
  style.opening ++ shownLabel label.isEmpty label

/-- The room for the dashes of a header. -/
def HeaderStyle.spare (style : HeaderStyle) (label : String) : ℤ :=
  spareRoom style.limit (style.beginning label) style.closing

/-- The parts of a header. -/
lemma HeaderStyle.line_eq (style : HeaderStyle) (label : String) :
    style.line label = style.fillLine (style.beginning label) (style.spare label) := by
  have hroom : freeRoom style.width style.opening style.closing 1
      = spareRoom style.limit style.opening style.closing := by
    have hfree := freeRoom_eq_spareRoom style.width style.opening style.closing ""
    rwa [String.empty_append] at hfree
  simp only [line, Arithmetic.header, Arithmetic.labelRoom, Arithmetic.wrapping_room,
    Arithmetic.wrapping_settle, pure_bind, hroom, spare, beginning, shownLabel]
  split
  · rw [String.append_empty, Id.run_pure]
  · rw [signed64_sub_signed64, signed64_spareRoom_sub, Id.run_pure]

lemma HeaderStyle.value_line (style : HeaderStyle) (label : String) :
    (style.line label).value
      = style.beginning label ++ dashRun (style.spare label).toNat ++ style.closing := by
  simp [line_eq, fillLine]

namespace RegionStyle

/-- How long the lines of a region of the style may be. -/
def limit (style : RegionStyle) : ℤ :=
  signedWidth style.width - 1

/-- What stands at the beginning of both lines of a region. -/
def beginning (style : RegionStyle) (label : String) : String :=
  style.opening ++ shownLabel (style.leavesOut label) label

/-- The room for the dashes of the top line. -/
def topSpare (style : RegionStyle) (label : String) : ℤ :=
  spareRoom style.limit (style.beginning label) style.closing

/-- The room for the dashes of the bottom line, whose ending has the end marker. -/
def bottomSpare (style : RegionStyle) (label : String) : ℤ :=
  spareRoom style.limit (style.beginning label) (endMarker ++ style.closing)

lemma topRoom_eq_spareRoom (style : RegionStyle) :
    style.topRoom = spareRoom style.limit style.opening style.closing := by
  have hfree := freeRoom_eq_spareRoom style.width style.opening style.closing ""
  rwa [String.empty_append] at hfree

/-- The parts of the two lines of a region. -/
lemma lines_eq (style : RegionStyle) (label : String) :
    style.lines label
      = if style.leavesOut label then
          style.bareLines label (style.topSpare label) (style.bottomSpare label)
        else
          style.fillLines (style.beginning label) (style.topSpare label)
            (style.bottomSpare label) := by
  have hbottom := freeRoom_eq_spareRoom style.width style.opening style.closing endMarker
  have hreserved : signed64 (endMarker.length + 1) = endMarker.length + 1 := by decide
  have htop : freeRoom style.width style.opening style.closing 1 = style.topRoom := rfl
  have hleavesOut : style.branch.leavesOut style.topRoom label = style.leavesOut label := rfl
  simp only [lines, Arithmetic.region, Arithmetic.labelRoom, Arithmetic.wrapping_room,
    Arithmetic.wrapping_settle, pure_bind, hreserved, htop, hleavesOut, hbottom, topSpare,
    bottomSpare, beginning, shownLabel]
  split
  · rw [String.append_empty, topRoom_eq_spareRoom, Id.run_pure, limit]
  · rw [signed64_sub_signed64, signed64_sub_signed64, topRoom_eq_spareRoom,
      signed64_spareRoom_sub, signed64_spareRoom_sub, Id.run_pure, limit]

@[simp]
lemma value_fillLines (style : RegionStyle) (beginning : String) (top bottom : ℤ) :
    (style.fillLines beginning top bottom).value
      = ⟨beginning ++ dashRun top.toNat ++ style.closing,
        beginning ++ dashRun bottom.toNat ++ endMarker ++ style.closing⟩ := by
  simp [fillLines]

@[simp]
lemma value_bareLines (style : RegionStyle) (label : String) (top bottom : ℤ) :
    (style.bareLines label top bottom).value
      = (style.fillLines style.opening top bottom).value := by
  unfold bareLines
  cases label.isEmpty <;> simp

lemma value_lines (style : RegionStyle) (label : String) :
    (style.lines label).value
      = ⟨style.beginning label ++ dashRun (style.topSpare label).toNat ++ style.closing,
        style.beginning label ++ dashRun (style.bottomSpare label).toNat ++ endMarker
          ++ style.closing⟩ := by
  rw [lines_eq]
  by_cases hleavesOut : style.leavesOut label
  · simp [hleavesOut, beginning, shownLabel]
  · simp [hleavesOut]

end RegionStyle

/-! ## Requests -/

/-- The label of a request. -/
def Request.label : Request → String
  | header label => label
  | region label => label

/-- A cut loses nothing. -/
lemma append_of_cutAtOctet? {octets : ℕ} {text : List Char} {cut : List Char × List Char}
    (h : cutAtOctet? octets text = some cut) : text = cut.1 ++ cut.2 := by
  induction octets, text using cutAtOctet?.induct generalizing cut with
  | case1 text =>
      rw [cutAtOctet?] at h
      rw [← Option.some.inj h]
      rfl
  | case2 octets => simp [cutAtOctet?] at h
  | case3 octets c text hsize ih =>
      rw [cutAtOctet?, if_pos hsize] at h
      obtain ⟨later, hlater, rfl⟩ := Option.map_eq_some_iff.mp h
      exact congrArg (c :: ·) (ih hlater)
  | case4 octets c text hsize =>
      rw [cutAtOctet?, if_neg hsize] at h
      simp at h

/-- Trimming adds nothing. -/
lemma Text.mem_of_mem_trim {c : Char} {text : List Char} (h : c ∈ trim text) : c ∈ text := by
  obtain ⟨before, after, htext, -⟩ := trim_eq text
  rw [htext]
  exact List.mem_append_left _ (List.mem_append_right _ h)

/-- Every character of the label stands in the input. -/
lemma Request.mem_label_ofInput {c : Char} {input : String}
    (h : c ∈ (Request.ofInput input).label.toList) : c ∈ input.toList := by
  unfold Request.ofInput at h
  split at h
  · rename_i word rest hcut
    split_ifs at h
    · rw [append_of_cutAtOctet? hcut]
      refine List.mem_append_right _ (Text.mem_of_mem_trim ?_)
      simpa [Request.label] using h
    · exact h
  · exact h

/-! ## Line feeds -/

/-- A text on one line. -/
def IsOneLine (text : String) : Prop :=
  '\n' ∉ text.toList

/-- Styles none of whose delimiters breaks a line. -/
structure Styles.KeepLines (styles : Styles) : Prop where
  headerOpening : IsOneLine styles.header.opening
  headerClosing : IsOneLine styles.header.closing
  regionOpening : IsOneLine styles.region.opening
  regionClosing : IsOneLine styles.region.closing

namespace IsOneLine

lemma append {s t : String} (hs : IsOneLine s) (ht : IsOneLine t) : IsOneLine (s ++ t) := by
  rw [IsOneLine, String.toList_append, List.mem_append, not_or]
  exact ⟨hs, ht⟩

lemma dashRun (count : ℕ) : IsOneLine (dashRun count) := by
  rw [IsOneLine, CommentSeparator.dashRun, String.toList_ofList]
  intro h
  exact absurd (List.eq_of_mem_replicate h) (by decide)

lemma shownLabel {label : String} (leftOut : Bool) (h : IsOneLine label) :
    IsOneLine (shownLabel leftOut label) := by
  have hspace : IsOneLine " " := by unfold IsOneLine; decide
  cases leftOut with
  | true => exact List.not_mem_nil
  | false => exact (hspace.append h).append hspace

end IsOneLine

/-- **Separators keep to their lines.**  If the delimiters and the input are on one line, so is
every separator line for it. -/
theorem Styles.KeepLines.isOneLine_of_render {styles : Styles} (h : styles.KeepLines)
    {input : String} (hinput : IsOneLine input) :
    ∀ line ∈ (styles.render input).value, IsOneLine line := by
  have hlabel : IsOneLine (Request.ofInput input).label := fun hmem =>
    hinput (Request.mem_label_ofInput hmem)
  have hmarker : IsOneLine endMarker := by unfold IsOneLine; decide
  intro line hline
  rw [Styles.render_eq] at hline
  cases hrequest : Request.ofInput input with
  | header label =>
      rw [hrequest] at hline hlabel
      simp only [Styles.renderRequest_header, Logged.value_bind, Logged.value_pure,
        HeaderStyle.value_line, List.mem_singleton] at hline
      subst hline
      exact ((h.headerOpening.append (.shownLabel _ hlabel)).append (.dashRun _)).append
        h.headerClosing
  | region label =>
      rw [hrequest] at hline hlabel
      simp only [Styles.renderRequest_region, Logged.value_bind, Logged.value_pure,
        RegionStyle.value_lines, RegionPair.toList, List.mem_cons, List.not_mem_nil,
        or_false] at hline
      have hbeginning : ∀ count, IsOneLine (styles.region.beginning label
          ++ CommentSeparator.dashRun count) := fun count =>
        (h.regionOpening.append (.shownLabel _ hlabel)).append (.dashRun count)
      rcases hline with rfl | rfl
      · exact (hbeginning _).append h.regionClosing
      · exact ((hbeginning _).append hmarker).append h.regionClosing

end CommentSeparator
