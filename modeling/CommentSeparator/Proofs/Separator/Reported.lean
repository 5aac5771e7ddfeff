import CommentSeparator.Proofs.Separator.Distinct

/-!
# What is reported of separators

A separator can fail to be what was asked for in two ways: a line can be too long, and a region can
leave out the label it was asked for.  Both are reported where the dashes are counted, before there
is a line at all.  Here the reports are read off the lines instead.

**A line is reported iff it is longer than its limit**, and the report says by how much
(`HeaderStyle.InRange.events_line`, `RegionStyle.InRange.events_lines`).  **A label is reported iff
it is lost**: it is not empty, and the lines would be the same for any other label
(`RegionStyle.events_lines`, `RegionStyle.forall_value_lines_eq_iff`).
-/

namespace CommentSeparator

/-! ## Lines that are too long -/

/-- What is to be reported of a line: by how much it misses its limit, if it is too long. -/
def overlong (limit : ℤ) (line : String) : List Event :=
  if limit < line.length then [.fillClamped (limit - line.length)] else []

/-- The room between two ends is below zero iff the line is too long, and by as much. -/
lemma events_fillRoom_eq {limit : ℤ} {beginning ending : String}
    (hexact : spareRoom limit beginning ending = limit - beginning.length - ending.length) :
    (fillRoom (spareRoom limit beginning ending)).events
      = overlong limit (filledLine limit beginning ending) := by
  rw [fillRoom_events, overlong, length_filledLine hexact, hexact]
  by_cases hfits : (beginning.length + ending.length : ℤ) ≤ limit
  · rw [Int.max_eq_left hfits, if_neg (by omega), if_neg (by omega)]
  · rw [Int.max_eq_right (by omega), if_pos (by omega), if_pos (by omega), Int.sub_sub]

/-- Filling reports nothing else. -/
lemma eq_fillClamped_of_mem {count : ℤ} {event : Event} (h : event ∈ (fillRoom count).events) :
    ∃ missing, event = .fillClamped missing := by
  rw [fillRoom_events] at h
  split_ifs at h
  · exact ⟨count, List.mem_singleton.mp h⟩
  · exact absurd h List.not_mem_nil

/-- A header reports what filling its room does. -/
lemma HeaderStyle.events_line (style : HeaderStyle) (label : String) :
    (style.line label).events = (fillRoom (style.spare label)).events := by
  simp [line_eq, fillLine]

/-- **A header is reported iff it is too long.** -/
lemma HeaderStyle.InRange.events_line {style : HeaderStyle} {label : String}
    (h : style.InRange label) :
    (style.line label).events = overlong style.limit (style.line label).value := by
  rw [HeaderStyle.events_line, value_line_eq]
  exact events_fillRoom_eq h.spare_eq

namespace RegionStyle

/-! ## Labels that are lost -/

instance (style : RegionStyle) : Decidable style.LosesLabels :=
  inferInstanceAs (Decidable (_ ∧ _))

/-- What is to be reported of a label: that it is lost, if there is one to lose. -/
def lost (style : RegionStyle) (label : String) : List Event :=
  if style.LosesLabels ∧ label ≠ "" then [.labelDropped label style.width] else []

/-- A label that is not empty is left out only where all labels are lost. -/
lemma leavesOut_iff_losesLabels (style : RegionStyle) {label : String} (h : label ≠ "") :
    style.leavesOut label ↔ style.LosesLabels := by
  rw [leavesOut_iff, LosesLabels]
  simp [h]

/-- Labels are lost iff the lines are the same for all of them. -/
lemma forall_value_lines_eq_iff (style : RegionStyle) (label : String) :
    (∀ other, (style.lines other).value = (style.lines label).value) ↔ style.LosesLabels := by
  constructor
  · intro hsame
    have hpair : (style.lines "").value = (style.lines "a").value :=
      (hsame "").trans (hsame "a").symm
    exact (style.value_lines_eq_iff.mp hpair).resolve_right (by decide)
  · intro hloses other
    exact style.value_lines_eq_iff.mpr (.inl hloses)

lemma events_fillLines (style : RegionStyle) (beginning : String) (top bottom : ℤ) :
    (style.fillLines beginning top bottom).events
      = (fillRoom top).events ++ (fillRoom bottom).events := by
  simp [fillLines]

lemma events_bareLines (style : RegionStyle) (label : String) (top bottom : ℤ) :
    (style.bareLines label top bottom).events
      = (if label = "" then [] else [.labelDropped label style.width])
        ++ (style.fillLines style.opening top bottom).events := by
  unfold bareLines
  by_cases hlabel : label = "" <;> simp [hlabel]

/-- A region reports a label that is lost, and then what filling its rooms does. -/
lemma events_lines (style : RegionStyle) (label : String) :
    (style.lines label).events
      = style.lost label
        ++ ((fillRoom (style.topSpare label)).events
          ++ (fillRoom (style.bottomSpare label)).events) := by
  rw [lines_eq, lost]
  by_cases hlabel : label = ""
  · cases style.leavesOut label <;> simp [hlabel, events_bareLines, events_fillLines]
  · have hleavesOut := style.leavesOut_iff_losesLabels hlabel
    by_cases hloses : style.LosesLabels
    · simp [hleavesOut.mpr hloses, hloses, hlabel, events_bareLines, events_fillLines]
    · simp [mt hleavesOut.mp hloses, hloses, events_fillLines]

/-- **A region is reported for the label that is lost and for each line that is too long**, in this
order. -/
lemma InRange.events_lines {style : RegionStyle} {label : String} (h : style.InRange label) :
    (style.lines label).events
      = style.lost label ++ overlong style.limit (style.lines label).value.top
        ++ overlong style.limit (style.lines label).value.bottom := by
  obtain ⟨htop, hbottom⟩ := h.spares_eq
  rw [RegionStyle.events_lines, value_top_eq, value_bottom_eq, List.append_assoc]
  exact congrArg _ (congrArg₂ _ (events_fillRoom_eq htop) (events_fillRoom_eq hbottom))

end RegionStyle

end CommentSeparator
