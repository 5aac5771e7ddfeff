import CommentSeparator.Proofs.Separator.Filled
import CommentSeparator.Proofs.Style.RoundTrip

/-!
# Counting with 64 bits

Room is counted with 64 bits and a sign, step by step, and every step can leave their range.  Two
conditions keep all of them in it.

**The line is short enough.**  If the delimiters and the label leave eight characters of the range
(`CountsIn64`), no step leaves it, so that a checked count has a result
(`Styles.checked_render_eq`), and all ways to count agree on it.

**The width is read as it is.**  It is the only other number that could be misread.  Styles that
have been read are safe, because integers of a document are below 2^63.  A greater width counts as a
negative one, so nothing is filled (`fill_in_64_bits`).
-/

namespace CommentSeparator

/-- A width out of range is read as a negative one. -/
lemma signedWidth_neg {width : UInt64} (h : 0x8000000000000000 ≤ width.toNat) :
    signedWidth width < 0 := by
  have hlt := width.toNat_lt
  rw [signedWidth_eq, signed64_eq]
  omega

/-! ## No step leaves the range -/

/-- A line whose delimiters and label have so many characters can be counted with 64 bits: its
characters, and what they leave of the width, are in range.  Eight more are the most that a line
needs. -/
structure CountsIn64 (width : UInt64) (parts : ℕ) : Prop where
  fits : parts + 8 ≤ 0x8000000000000000
  left : (parts + 8 : ℤ) ≤ 0x8000000000000000 + signedWidth width

namespace Arithmetic

variable {width : UInt64} {opening closing label : String}

lemma checked_settle_eq {n : ℤ} (h : IsSigned64 n) : checked.settle n = some n :=
  checked_settle_eq_some.mpr ⟨h, rfl⟩

/-- The room of a line, if no more than six characters are reserved. -/
lemma checked_room_eq (reserved : ℤ)
    (hcounts : CountsIn64 width (opening.length + closing.length + label.length))
    (hreserved : 0 ≤ reserved ∧ reserved ≤ 6) :
    checked.room width opening closing reserved
      = some (signedWidth width - opening.length - closing.length - reserved) := by
  obtain ⟨-, hleft⟩ := hcounts
  obtain ⟨-, hlt⟩ := isSigned64_signedWidth width
  have hfirst : IsSigned64 (signedWidth width - opening.length) := ⟨by omega, by omega⟩
  have hsecond : IsSigned64 (signedWidth width - opening.length - closing.length) :=
    ⟨by omega, by omega⟩
  have hthird : IsSigned64 (signedWidth width - opening.length - closing.length - reserved) :=
    ⟨by omega, by omega⟩
  refine Option.bind_eq_some_iff.mpr ⟨_, checked_settle_eq hfirst, ?_⟩
  exact Option.bind_eq_some_iff.mpr ⟨_, checked_settle_eq hsecond, checked_settle_eq hthird⟩

lemma checked_labelRoom_eq
    (hcounts : CountsIn64 width (opening.length + closing.length + label.length)) :
    checked.labelRoom label = some (label.length + 2 : ℤ) := by
  obtain ⟨hparts, -⟩ := hcounts
  exact checked_settle_eq ⟨by omega, by omega⟩

/-- What is left of the room when a label is put in. -/
lemma checked_left_eq (reserved : ℤ)
    (hcounts : CountsIn64 width (opening.length + closing.length + label.length))
    (hreserved : 0 ≤ reserved ∧ reserved ≤ 6) :
    checked.settle (signedWidth width - opening.length - closing.length - reserved
        - (label.length + 2))
      = some (signedWidth width - opening.length - closing.length - reserved
        - (label.length + 2)) := by
  obtain ⟨-, hleft⟩ := hcounts
  obtain ⟨-, hlt⟩ := isSigned64_signedWidth width
  exact checked_settle_eq ⟨by omega, by omega⟩

end Arithmetic

/-- **A header** that is short enough is counted in range. -/
lemma CountsIn64.header_inRange {style : HeaderStyle} {label : String}
    (h : CountsIn64 style.width (style.opening.length + style.closing.length + label.length)) :
    style.InRange label := by
  have hroom := Arithmetic.checked_room_eq 1 h ⟨by omega, by omega⟩
  have hleft := Arithmetic.checked_left_eq 1 h ⟨by omega, by omega⟩
  unfold HeaderStyle.InRange Arithmetic.header
  cases label.isEmpty <;> simp [hroom, Arithmetic.checked_labelRoom_eq h, hleft]

/-- **A region** that is short enough is counted in range. -/
lemma CountsIn64.region_inRange {style : RegionStyle} {label : String}
    (h : CountsIn64 style.width (style.opening.length + style.closing.length + label.length)) :
    style.InRange label := by
  have hmarker : endMarker.length = 5 := rfl
  have hreserved : Arithmetic.checked.settle (endMarker.length + 1)
      = some (endMarker.length + 1 : ℤ) :=
    Arithmetic.checked_settle_eq (by decide)
  have htop := Arithmetic.checked_room_eq 1 h ⟨by omega, by omega⟩
  have hbottom := Arithmetic.checked_room_eq (endMarker.length + 1) h ⟨by omega, by omega⟩
  have htopLeft := Arithmetic.checked_left_eq 1 h ⟨by omega, by omega⟩
  have hbottomLeft := Arithmetic.checked_left_eq (endMarker.length + 1) h ⟨by omega, by omega⟩
  unfold RegionStyle.InRange Arithmetic.region
  simp only [htop, hreserved, hbottom, Option.bind_eq_bind, Option.bind_some,
    Arithmetic.checked_labelRoom_eq h, htopLeft, hbottomLeft]
  split <;> rfl

/-! ## Requests -/

namespace Styles

/-- The width of the lines for a request. -/
def widthFor (styles : Styles) : Request → UInt64
  | .header _ => styles.header.width
  | .region _ => styles.region.width

/-- How many characters the delimiters and the label of a request have. -/
def partsLength (styles : Styles) : Request → ℕ
  | .header label =>
    styles.header.opening.length + styles.header.closing.length + label.length
  | .region label =>
    styles.region.opening.length + styles.region.closing.length + label.length

/-- The lines for a request, each with a run of at most so many dashes. -/
def FillsAtMost (styles : Styles) (bound : ℕ) : Request → List String → Prop
  | .header label, lines =>
    ∃ fill ≤ bound,
      lines = [styles.header.beginning label ++ dashRun fill ++ styles.header.closing]
  | .region label, lines =>
    ∃ topFill ≤ bound, ∃ bottomFill ≤ bound,
      lines = [styles.region.beginning label ++ dashRun topFill ++ styles.region.closing,
        styles.region.beginning label ++ dashRun bottomFill ++ (endMarker ++ styles.region.closing)]

end Styles

/-- The lines for a request that is short enough, counted with every step checked. -/
lemma Styles.checked_render_eq {styles : Styles} {input : String}
    (h : CountsIn64 (styles.widthFor (Request.ofInput input))
      (styles.partsLength (Request.ofInput input))) :
    Arithmetic.checked.render styles input = some (styles.render input) := by
  have hsome : (Arithmetic.checked.render styles input).isSome := by
    unfold Arithmetic.render Arithmetic.renderRequest
    cases hrequest : Request.ofInput input with
    | header label =>
        rw [hrequest] at h
        obtain ⟨line, hline⟩ := Option.isSome_iff_exists.mp h.header_inRange
        simp [hline]
    | region label =>
        rw [hrequest] at h
        obtain ⟨lines, hlines⟩ := Option.isSome_iff_exists.mp h.region_inRange
        simp [hlines]
  obtain ⟨rendered, hrendered⟩ := Option.isSome_iff_exists.mp hsome
  rw [hrendered, render_eq_of_checked hrendered]

/-- No run is longer than the width that the line is filled up to. -/
lemma Styles.fillsAtMost_render {styles : Styles} {input : String}
    (h : CountsIn64 (styles.widthFor (Request.ofInput input))
      (styles.partsLength (Request.ofInput input))) :
    styles.FillsAtMost (signedWidth (styles.widthFor (Request.ofInput input))).toNat
      (Request.ofInput input) (styles.render input).value := by
  rw [render_eq]
  cases hrequest : Request.ofInput input with
  | header label =>
      rw [hrequest] at h
      have hspare := h.header_inRange.spare_eq
      refine ⟨_, ?_, congrArg (fun line => [line]) (styles.header.value_line label)⟩
      simp only [hspare, HeaderStyle.limit, widthFor]
      omega
  | region label =>
      rw [hrequest] at h
      obtain ⟨htop, hbottom⟩ := h.region_inRange.spares_eq
      refine ⟨(styles.region.topSpare label).toNat, ?_,
        (styles.region.bottomSpare label).toNat, ?_, ?_⟩
      · simp only [htop, RegionStyle.limit, widthFor]
        omega
      · simp only [hbottom, RegionStyle.limit, widthFor]
        omega
      · simp [renderRequest_region, RegionPair.toList, RegionStyle.value_lines,
          String.append_assoc]

/-- With a width that counts as a negative one the top line of a region always misses room. -/
lemma RegionStyle.InRange.leavesOut_of_neg {style : RegionStyle} {label : String}
    (h : style.InRange label) (hwidth : signedWidth style.width < 0)
    (hbranch : style.branch = .dashCount) : style.leavesOut label = false := by
  have hroom : style.topRoom ≠ 0 := by
    rw [h.topRoom_eq]
    omega
  rw [Bool.eq_false_iff, ne_eq, leavesOut_iff, hbranch]
  simp [hroom]

/-- **The room is counted exactly with 64 bits.**  The widths of styles that have been read are in
range.  If the delimiters and the label leave eight characters of the range, no sum and no
difference on the way to a line is out of range: integers without bounds, numbers that go round and
numbers that are checked come to the same lines, and no run of dashes is longer than the width.

A width of 2^63 or more can only be made in memory and counts as a negative one.  Under the same
condition on what it counts as, nothing is filled, and no label is left out for want of room. -/
theorem fill_in_64_bits (styles : Styles) (input : String) :
    let request := Request.ofInput input
    let width := styles.widthFor request
    let parts := styles.partsLength request
    ((∃ text, Styles.ofToml text = .ok styles) →
        (signedWidth styles.header.width = styles.header.width.toNat
          ∧ signedWidth styles.region.width = styles.region.width.toNat)
        ∧ (parts + 8 ≤ 0x8000000000000000 →
          Arithmetic.exact.render styles input = pure (styles.render input)
          ∧ Arithmetic.wrapping.render styles input = pure (styles.render input)
          ∧ Arithmetic.checked.render styles input = some (styles.render input)
          ∧ styles.FillsAtMost width.toNat request (styles.render input).value))
      ∧ (0x8000000000000000 ≤ width.toNat →
          (parts + 8 : ℤ) ≤ 0x8000000000000000 + signedWidth width →
          Arithmetic.wrapping.render styles input = pure (styles.render input)
          ∧ Arithmetic.checked.render styles input = some (styles.render input)
          ∧ styles.FillsAtMost 0 request (styles.render input).value
          ∧ ∀ label, request = .region label → styles.region.branch = .dashCount →
            styles.region.leavesOut label = false) := by
  intro request width parts
  constructor
  · rintro ⟨text, htext⟩
    obtain ⟨hheader, hregion⟩ := widths_lt_of_ofToml htext
    simp only [Toml.integerBound] at hheader hregion
    have hheader' : signedWidth styles.header.width = styles.header.width.toNat :=
      signedWidth_of_isSigned64 ⟨by omega, by omega⟩
    have hregion' : signedWidth styles.region.width = styles.region.width.toNat :=
      signedWidth_of_isSigned64 ⟨by omega, by omega⟩
    have hwidth : signedWidth width = width.toNat := by
      cases hrequest : request <;> simpa [width, hrequest, Styles.widthFor]
    refine ⟨⟨hheader', hregion'⟩, fun hparts => ?_⟩
    have hcounts : CountsIn64 width parts := ⟨by omega, by omega⟩
    have hchecked := Styles.checked_render_eq hcounts
    refine ⟨Arithmetic.exact.render_eq_pure hheader'.symm hregion'.symm hchecked,
      Arithmetic.wrapping.render_eq_pure rfl rfl hchecked, hchecked, ?_⟩
    have hfills := Styles.fillsAtMost_render hcounts
    change styles.FillsAtMost (signedWidth width).toNat request _ at hfills
    rwa [hwidth, Int.toNat_natCast] at hfills
  · intro hwidth hparts
    have hneg : signedWidth width < 0 := signedWidth_neg (by omega)
    have hcounts : CountsIn64 width parts := ⟨by omega, by omega⟩
    have hchecked := Styles.checked_render_eq hcounts
    refine ⟨Arithmetic.wrapping.render_eq_pure rfl rfl hchecked, hchecked, ?_,
      fun label hrequest hbranch => ?_⟩
    · have hfills := Styles.fillsAtMost_render hcounts
      change styles.FillsAtMost (signedWidth width).toNat request _ at hfills
      rwa [Int.toNat_of_nonpos (Int.le_of_lt hneg)] at hfills
    · have hcounts' := hcounts
      simp only [width, parts, hrequest, Styles.widthFor, Styles.partsLength] at hcounts' hneg
      exact hcounts'.region_inRange.leavesOut_of_neg hneg hbranch

/-- A style file with the width zero, where all room is missing, and a region as wide as 2^64 - 1 in
memory, which counts as -1. -/
theorem fill_in_64_bits_of_no_width :
    let empty : Styles := { region := { width := 0 } }
    let wide : Styles := { region := { width := 0xFFFFFFFFFFFFFFFF } }
    (Styles.ofToml "region.width = 0\n" = .ok empty
        ∧ signedWidth empty.region.width = (0 : ℕ)
        ∧ Arithmetic.wrapping.render empty "region x" = pure (empty.render "region x")
        ∧ Arithmetic.checked.render empty "region x" = some (empty.render "region x")
        ∧ empty.FillsAtMost 0 (.region "x") (empty.render "region x").value)
      ∧ (Request.ofInput "region x" = .region "x"
        ∧ Arithmetic.checked.render wide "region x" = some (wide.render "region x")
        ∧ wide.FillsAtMost 0 (.region "x") (wide.render "region x").value
        ∧ wide.region.leavesOut "x" = false) := by
  intro empty wide
  have htext : Styles.ofToml "region.width = 0\n" = .ok empty := by with_unfolding_all rfl
  have hrequest : Request.ofInput "region x" = .region "x" := by decide
  obtain ⟨⟨-, hwidth⟩, hcounted⟩ := (fill_in_64_bits empty "region x").1 ⟨_, htext⟩
  obtain ⟨-, hwrapping, hchecked, hfills⟩ := hcounted (by decide)
  obtain ⟨-, hwide, hwideFills, hshown⟩ :=
    (fill_in_64_bits wide "region x").2 (by decide) (by decide)
  rw [hrequest] at hfills hwideFills
  exact ⟨⟨htext, hwidth, hwrapping, hchecked, hfills⟩, hrequest, hwide, hwideFills,
    hshown "x" hrequest rfl⟩

end CommentSeparator
