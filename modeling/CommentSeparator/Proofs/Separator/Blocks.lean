import CommentSeparator.Proofs.Output.Room
import CommentSeparator.Proofs.Separator.Distinct

/-!
# The blocks of a region

The two lines of a region are written as blocks, one behind the other.  Labels and delimiters may
have line feeds of their own, so what is written does not in general tell one block from the next.
The two policies can be told apart all the same, because they differ in nothing but whether the
label is shown, and **a label that is shown is seen** (`pairText_eq_iff`).  If there is a dash where
the label would begin, it is not the space in front of the label.  If there is none, nothing makes
up for what the label takes: there are no dashes at all, unless the count of the bottom line has
gone round, and then the one with the label has gone round with it.
-/

namespace CommentSeparator

/-- Two filled lines as blocks, the second of them with the end marker. -/
def pairText (limit : ℤ) (beginning closing : String) : String :=
  Sink.block (filledLine limit beginning closing)
    ++ Sink.block (filledLine limit beginning (endMarker ++ closing))

/-- What is written for a region. -/
lemma RegionStyle.blockOctets_lines (style : RegionStyle) (label : String) :
    Sink.blockOctets (style.lines label).value.toList
      = Text.encode (pairText style.limit (style.beginning label) style.closing) := by
  rw [pairText, ← value_top_eq, ← value_bottom_eq]
  simp [Sink.blockOctets, RegionPair.toList]

lemma length_pairText (limit : ℤ) (beginning closing : String) :
    ((pairText limit beginning closing).length : ℤ)
      = fillCount limit beginning closing + fillCount limit beginning (endMarker ++ closing)
        + 2 * (beginning.length + closing.length) + 11 := by
  have hblock : ∀ line, (Sink.block line).length = line.length + 3 := by
    intro line
    have hlengths : "\n".length = 1 ∧ "\n\n".length = 2 := ⟨rfl, rfl⟩
    simp only [Sink.block, String.length_append, hlengths]
    omega
  have hmarker : endMarker.length = 5 := rfl
  simp only [pairText, String.length_append, hblock, filledLine, length_dashRun, hmarker]
  omega

/-- Lines without a dash behind their opening are shorter than lines with a label there: whatever
going round makes of the room of one line, it takes from the other. -/
lemma pairText_ne_of_nonpos {limit : ℤ} {opening label closing : String}
    (h : spareRoom limit opening closing ≤ 0) :
    pairText limit opening closing ≠ pairText limit (opening ++ spaced label) closing := by
  intro hsame
  have hlength := congrArg (fun text => (text.length : ℤ)) hsame
  have hmarker : endMarker.length = 5 := rfl
  simp only [length_pairText, fillCount, spareRoom, String.length_append, Int.natCast_add,
    length_spaced, hmarker, signed64_eq] at hlength h
  omega

/-- Lines with a dash behind their opening are not lines with a label there. -/
lemma pairText_ne_of_pos {limit : ℤ} {opening label closing : String}
    (h : 0 < spareRoom limit opening closing) :
    pairText limit opening closing ≠ pairText limit (opening ++ spaced label) closing := by
  obtain ⟨count, hcount⟩ : ∃ count, fillCount limit opening closing = count + 1 := by
    refine Nat.exists_eq_succ_of_ne_zero ?_
    unfold fillCount
    omega
  intro hsame
  have hchars := congrArg String.toList hsame
  simp [pairText, Sink.block, filledLine, hcount, dashRun, spaced, List.replicate_succ] at hchars

/-- **A label that is shown is seen** in what is written. -/
lemma pairText_eq_iff {limit : ℤ} {opening closing label : String} {leftOut leftOut' : Bool} :
    pairText limit (opening ++ shownLabel leftOut label) closing
        = pairText limit (opening ++ shownLabel leftOut' label) closing
      ↔ shownLabel leftOut label = shownLabel leftOut' label := by
  have hne : pairText limit (opening ++ shownLabel true label) closing
      ≠ pairText limit (opening ++ shownLabel false label) closing := by
    simp only [shownLabel, if_true, Bool.false_eq_true, if_false, String.append_empty]
    rcases Int.lt_or_le 0 (spareRoom limit opening closing) with hpos | hnonpos
    · exact pairText_ne_of_pos hpos
    · exact pairText_ne_of_nonpos hnonpos
  refine ⟨fun h => ?_, fun h => by rw [h]⟩
  cases leftOut with
  | true =>
      cases leftOut' with
      | true => rfl
      | false => exact absurd h hne
  | false =>
      cases leftOut' with
      | true => exact absurd h.symm hne
      | false => rfl

/-- The two policies write the same for a label iff it is empty where there is exactly no room for
dashes, and only there. -/
lemma blockOctets_policies_eq_iff (opening closing : String) (width : UInt64) (label : String) :
    Sink.blockOctets
          (RegionStyle.lines ⟨opening, closing, width, .dashCount⟩ label).value.toList
        = Sink.blockOctets (RegionStyle.lines ⟨opening, closing, width, .label⟩ label).value.toList
      ↔ (label = "" ↔ freeRoom width opening closing 1 = 0) := by
  rw [RegionStyle.blockOctets_lines, RegionStyle.blockOctets_lines,
    Function.Injective.eq_iff (fun _ _ => Text.encode_inj)]
  exact pairText_eq_iff.trans (shownLabel_leavesOut_policies opening closing width label)

end CommentSeparator
