import CommentSeparator.Proofs.Separator.Parts

/-!
# Counts in range

Room is counted in steps, and every step can leave the range of 64 bits.  A checked count has a
result just where none does, so having a result is what being in range means here
(`HeaderStyle.InRange`, `RegionStyle.InRange`).

**In range all ways to count agree.**  An arithmetic is free outside the range only.  What has been
counted on the way to a line that is checked is said once (`Arithmetic.checked_header_cases`,
`Arithmetic.checked_region_cases`), and every other way to count makes the same steps.  So it comes
to the same line, with the same reports (`Arithmetic.header_eq_pure`, `Arithmetic.region_eq_pure`);
in particular the lines of this program do, whose numbers go round (`Styles.render_eq_of_checked`).

**In range the counts are exact**: the room for dashes is the integer that is left of the limit
beside the two ends of the line (`HeaderStyle.InRange.spare_eq`, `RegionStyle.InRange.spares_eq`).
-/

namespace CommentSeparator

namespace Arithmetic

/-! ## Ways to count agree -/

/-- A checked step is exact, and in range. -/
lemma checked_settle_eq_some {n k : ℤ} :
    checked.settle n = some k ↔ IsSigned64 n ∧ n = k := by
  simp [checked]

/-- A checked room is exact, and in range. -/
lemma eq_of_checked_room {width : UInt64} {opening closing : String} {reserved room : ℤ}
    (h : checked.room width opening closing reserved = some room) :
    IsSigned64 room
      ∧ room = signedWidth width - opening.length - closing.length - reserved := by
  obtain ⟨first, hfirst, h⟩ := Option.bind_eq_some_iff.mp h
  obtain ⟨second, hsecond, hthird⟩ := Option.bind_eq_some_iff.mp h
  obtain ⟨-, rfl⟩ := checked_settle_eq_some.mp hfirst
  obtain ⟨-, rfl⟩ := checked_settle_eq_some.mp hsecond
  obtain ⟨hroom, rfl⟩ := checked_settle_eq_some.mp hthird
  exact ⟨hroom, rfl⟩

/-- So is what a label leaves of a room. -/
lemma isSigned64_of_checked_left {label : String} {room taken left : ℤ}
    (htaken : checked.labelRoom label = some taken)
    (hleft : checked.settle (room - taken) = some left) :
    IsSigned64 (room - (label.length + 2)) := by
  obtain ⟨-, rfl⟩ := checked_settle_eq_some.mp htaken
  exact (checked_settle_eq_some.mp hleft).1

/-- What has been counted on the way to a header. -/
lemma checked_header_cases {style : HeaderStyle} {label : String} {line : Logged String}
    (h : checked.header style label = some line) :
    ∃ room, checked.room style.width style.opening style.closing 1 = some room
      ∧ (label.isEmpty ∧ style.fillLine style.opening room = line
        ∨ ¬ label.isEmpty ∧ ∃ taken left, checked.labelRoom label = some taken
          ∧ checked.settle (room - taken) = some left
          ∧ style.fillLine (style.opening ++ spaced label) left = line) := by
  obtain ⟨room, hroom, h⟩ := Option.bind_eq_some_iff.mp h
  refine ⟨room, hroom, ?_⟩
  split at h
  · rename_i hlabel
    exact .inl ⟨hlabel, Option.some.inj h⟩
  · rename_i hlabel
    obtain ⟨taken, htaken, h⟩ := Option.bind_eq_some_iff.mp h
    obtain ⟨left, hleft, h⟩ := Option.bind_eq_some_iff.mp h
    exact .inr ⟨hlabel, taken, left, htaken, hleft, Option.some.inj h⟩

/-- What has been counted on the way to the lines of a region. -/
lemma checked_region_cases {style : RegionStyle} {label : String} {lines : Logged RegionPair}
    (h : checked.region style label = some lines) :
    ∃ top reserved bottom, checked.room style.width style.opening style.closing 1 = some top
      ∧ checked.settle (endMarker.length + 1) = some reserved
      ∧ checked.room style.width style.opening style.closing reserved = some bottom
      ∧ (style.branch.leavesOut top label ∧ style.bareLines label top bottom = lines
        ∨ ¬ style.branch.leavesOut top label ∧ ∃ taken topLeft bottomLeft,
          checked.labelRoom label = some taken
          ∧ checked.settle (top - taken) = some topLeft
          ∧ checked.settle (bottom - taken) = some bottomLeft
          ∧ style.fillLines (style.opening ++ spaced label) topLeft bottomLeft = lines) := by
  obtain ⟨top, htop, h⟩ := Option.bind_eq_some_iff.mp h
  obtain ⟨reserved, hreserved, h⟩ := Option.bind_eq_some_iff.mp h
  obtain ⟨bottom, hbottom, h⟩ := Option.bind_eq_some_iff.mp h
  refine ⟨top, reserved, bottom, htop, hreserved, hbottom, ?_⟩
  split at h
  · rename_i hbare
    exact .inl ⟨hbare, Option.some.inj h⟩
  · rename_i hshown
    obtain ⟨taken, htaken, h⟩ := Option.bind_eq_some_iff.mp h
    obtain ⟨topLeft, htopLeft, h⟩ := Option.bind_eq_some_iff.mp h
    obtain ⟨bottomLeft, hbottomLeft, h⟩ := Option.bind_eq_some_iff.mp h
    exact .inr ⟨hshown, taken, topLeft, bottomLeft, htaken, htopLeft, hbottomLeft,
      Option.some.inj h⟩

variable {m : Type → Type} [Monad m] [LawfulMonad m] (arith : Arithmetic m)

omit [LawfulMonad m] in
lemma settle_eq_pure {n k : ℤ} (h : checked.settle n = some k) : arith.settle n = pure k := by
  obtain ⟨hn, rfl⟩ := checked_settle_eq_some.mp h
  exact arith.settle_of_isSigned64 hn

lemma room_eq_pure {width : UInt64} {opening closing : String} {reserved room : ℤ}
    (hwidth : arith.ofWidth width = signedWidth width)
    (h : checked.room width opening closing reserved = some room) :
    arith.room width opening closing reserved = pure room := by
  obtain ⟨first, hfirst, h⟩ := Option.bind_eq_some_iff.mp h
  obtain ⟨second, hsecond, hthird⟩ := Option.bind_eq_some_iff.mp h
  have hfirst' : arith.settle (signedWidth width - opening.length) = pure first :=
    arith.settle_eq_pure hfirst
  rw [Arithmetic.room, hwidth, hfirst', pure_bind, arith.settle_eq_pure hsecond, pure_bind,
    arith.settle_eq_pure hthird]

/-- **A header that can be counted in range is the same however it is counted.** -/
lemma header_eq_pure {style : HeaderStyle} {label : String} {line : Logged String}
    (hwidth : arith.ofWidth style.width = signedWidth style.width)
    (h : checked.header style label = some line) : arith.header style label = pure line := by
  obtain ⟨room, hroom, ⟨hlabel, rfl⟩ | ⟨hlabel, taken, left, htaken, hleft, rfl⟩⟩ :=
    checked_header_cases h
  · rw [header, arith.room_eq_pure hwidth hroom, pure_bind, if_pos hlabel]
  · have htaken' : arith.labelRoom label = pure taken := arith.settle_eq_pure htaken
    rw [header, arith.room_eq_pure hwidth hroom, pure_bind, if_neg hlabel, htaken', pure_bind,
      arith.settle_eq_pure hleft, pure_bind]

/-- So are the lines of a region. -/
lemma region_eq_pure {style : RegionStyle} {label : String} {lines : Logged RegionPair}
    (hwidth : arith.ofWidth style.width = signedWidth style.width)
    (h : checked.region style label = some lines) : arith.region style label = pure lines := by
  obtain ⟨top, reserved, bottom, htop, hreserved, hbottom, hlines⟩ := checked_region_cases h
  rw [region, arith.room_eq_pure hwidth htop, pure_bind, arith.settle_eq_pure hreserved,
    pure_bind, arith.room_eq_pure hwidth hbottom, pure_bind]
  rcases hlines with
    ⟨hbare, rfl⟩ | ⟨hshown, taken, topLeft, bottomLeft, htaken, htopLeft, hbottomLeft, rfl⟩
  · rw [if_pos hbare]
  · have htaken' : arith.labelRoom label = pure taken := arith.settle_eq_pure htaken
    rw [if_neg hshown, htaken', pure_bind, arith.settle_eq_pure htopLeft, pure_bind,
      arith.settle_eq_pure hbottomLeft, pure_bind]

/-- So is the rendering of an input line. -/
lemma render_eq_pure {styles : Styles} {input : String} {rendered : Logged (List String)}
    (hheader : arith.ofWidth styles.header.width = signedWidth styles.header.width)
    (hregion : arith.ofWidth styles.region.width = signedWidth styles.region.width)
    (h : checked.render styles input = some rendered) :
    arith.render styles input = pure rendered := by
  unfold render renderRequest at h ⊢
  cases hrequest : Request.ofInput input with
  | header label =>
      rw [hrequest] at h
      obtain ⟨counted, hcounted, h⟩ := Option.bind_eq_some_iff.mp h
      obtain rfl := Option.some.inj h
      simp [arith.header_eq_pure hheader hcounted]
  | region label =>
      rw [hrequest] at h
      obtain ⟨counted, hcounted, h⟩ := Option.bind_eq_some_iff.mp h
      obtain rfl := Option.some.inj h
      simp [arith.region_eq_pure hregion hcounted]

end Arithmetic

/-- What a checked count of a header comes to is the header. -/
lemma HeaderStyle.line_eq_of_checked {style : HeaderStyle} {label : String} {line : Logged String}
    (h : Arithmetic.checked.header style label = some line) : style.line label = line :=
  Arithmetic.wrapping.header_eq_pure rfl h

lemma RegionStyle.lines_eq_of_checked {style : RegionStyle} {label : String}
    {lines : Logged RegionPair} (h : Arithmetic.checked.region style label = some lines) :
    style.lines label = lines :=
  Arithmetic.wrapping.region_eq_pure rfl h

lemma Styles.render_eq_of_checked {styles : Styles} {input : String}
    {rendered : Logged (List String)}
    (h : Arithmetic.checked.render styles input = some rendered) :
    styles.render input = rendered :=
  Arithmetic.wrapping.render_eq_pure rfl rfl h

section

variable {opening closing label : String} {width : UInt64}

/-- Under the policy that looks at the label, the header around it is counted on the way to the top
line. -/
lemma Arithmetic.isSome_checked_header {lines : Logged RegionPair}
    (h : checked.region ⟨opening, closing, width, .label⟩ label = some lines) :
    (checked.header ⟨opening, closing, width⟩ label).isSome := by
  obtain ⟨top, _, _, htop, -, -, hlines⟩ := checked_region_cases h
  have hroom : checked.room width opening closing 1 = some top := htop
  rcases hlines with ⟨hbare, -⟩ | ⟨hshown, taken, topLeft, -, htaken, htopLeft, -⟩
  · have hlabel : label.isEmpty := hbare
    simp [header, hroom, hlabel]
  · have hlabel : ¬ label.isEmpty := hshown
    simp [header, hroom, hlabel, htaken, htopLeft]

/-- Policies that decide alike on the room of the top line make the same steps. -/
lemma Arithmetic.checked_region_policies
    (h : label = "" ↔ freeRoom width opening closing 1 = 0) :
    checked.region ⟨opening, closing, width, .dashCount⟩ label
      = checked.region ⟨opening, closing, width, .label⟩ label := by
  refine Option.bind_congr fun top htop => Option.bind_congr fun reserved _ =>
    Option.bind_congr fun bottom _ => ?_
  have hroom : freeRoom width opening closing 1 = top := wrapping.room_eq_pure rfl htop
  have halike : BranchPolicy.dashCount.leavesOut top label
      = BranchPolicy.label.leavesOut top label := by
    rw [hroom] at h
    rw [Bool.eq_iff_iff]
    simpa [BranchPolicy.leavesOut] using h.symm
  -- the policy decides this, and nothing else depends on it
  exact if_congr (Bool.eq_iff_iff.mp halike) rfl rfl

end

/-! ## Exact counts -/

/-- No sum and no difference on the way to the header leaves the range of 64 bits. -/
def HeaderStyle.InRange (style : HeaderStyle) (label : String) : Prop :=
  (Arithmetic.checked.header style label).isSome

instance (style : HeaderStyle) (label : String) : Decidable (style.InRange label) :=
  inferInstanceAs (Decidable (_ = _))

/-- No sum and no difference on the way to the lines of the region leaves the range of 64 bits. -/
def RegionStyle.InRange (style : RegionStyle) (label : String) : Prop :=
  (Arithmetic.checked.region style label).isSome

instance (style : RegionStyle) (label : String) : Decidable (style.InRange label) :=
  inferInstanceAs (Decidable (_ = _))

lemma spareRoom_of_isSigned64 {limit : ℤ} {beginning ending : String}
    (h : IsSigned64 (limit - beginning.length - ending.length)) :
    spareRoom limit beginning ending = limit - beginning.length - ending.length :=
  signed64_of_isSigned64 h

/-- The dashes of a header in range are counted exactly. -/
lemma HeaderStyle.InRange.spare_eq {style : HeaderStyle} {label : String}
    (h : style.InRange label) :
    style.spare label = style.limit - (style.beginning label).length - style.closing.length := by
  obtain ⟨line, hline⟩ := Option.isSome_iff_exists.mp h
  obtain ⟨room, hroom, hcases⟩ := Arithmetic.checked_header_cases hline
  obtain ⟨hroom', rfl⟩ := Arithmetic.eq_of_checked_room hroom
  refine spareRoom_of_isSigned64 ?_
  simp only [limit, beginning, String.length_append, Int.natCast_add, length_shownLabel]
  rcases hcases with ⟨hlabel, -⟩ | ⟨hlabel, taken, left, htaken, hleft, -⟩
  · rw [if_pos hlabel]
    convert hroom' using 1
    omega
  · rw [if_neg hlabel]
    convert Arithmetic.isSigned64_of_checked_left htaken hleft using 1
    omega

namespace RegionStyle.InRange

variable {style : RegionStyle} {label : String}

/-- The room of the top line is exact, so labels are left out as they should. -/
lemma topRoom_eq (h : style.InRange label) :
    style.topRoom = signedWidth style.width - style.opening.length - style.closing.length - 1 := by
  obtain ⟨lines, hlines⟩ := Option.isSome_iff_exists.mp h
  obtain ⟨top, -, -, htop, -⟩ := Arithmetic.checked_region_cases hlines
  obtain ⟨-, hexact⟩ := Arithmetic.eq_of_checked_room htop
  have hroom : style.topRoom = top := Arithmetic.wrapping.room_eq_pure rfl htop
  rw [hroom, hexact]

/-- The dashes of both lines of a region in range are counted exactly. -/
lemma spares_eq (h : style.InRange label) :
    style.topSpare label = style.limit - (style.beginning label).length - style.closing.length
      ∧ style.bottomSpare label
        = style.limit - (style.beginning label).length - (endMarker ++ style.closing).length := by
  have htopRoom := h.topRoom_eq
  obtain ⟨lines, hlines⟩ := Option.isSome_iff_exists.mp h
  obtain ⟨top, reserved, bottom, htop, hreserved, hbottom, hcases⟩ :=
    Arithmetic.checked_region_cases hlines
  obtain ⟨-, rfl⟩ := Arithmetic.checked_settle_eq_some.mp hreserved
  obtain ⟨htop', rfl⟩ := Arithmetic.eq_of_checked_room htop
  obtain ⟨hbottom', rfl⟩ := Arithmetic.eq_of_checked_room hbottom
  have hleavesOut : style.branch.leavesOut
      (signedWidth style.width - style.opening.length - style.closing.length - 1) label
      = style.leavesOut label := by
    rw [leavesOut, htopRoom]
  rw [hleavesOut] at hcases
  suffices hrange : IsSigned64
        (style.limit - (style.beginning label).length - style.closing.length)
      ∧ IsSigned64 (style.limit - (style.beginning label).length
        - (endMarker ++ style.closing).length) from
    ⟨spareRoom_of_isSigned64 hrange.1, spareRoom_of_isSigned64 hrange.2⟩
  simp only [limit, beginning, String.length_append, Int.natCast_add, length_shownLabel]
  rcases hcases with
    ⟨hbare, -⟩ | ⟨hshown, taken, topLeft, bottomLeft, htaken, htopLeft, hbottomLeft, -⟩
  · rw [if_pos hbare]
    constructor
    · convert htop' using 1
      omega
    · convert hbottom' using 1
      omega
  · rw [if_neg hshown]
    constructor
    · convert Arithmetic.isSigned64_of_checked_left htaken htopLeft using 1
      omega
    · convert Arithmetic.isSigned64_of_checked_left htaken hbottomLeft using 1
      omega

end RegionStyle.InRange

end CommentSeparator
