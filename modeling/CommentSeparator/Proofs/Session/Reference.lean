import CommentSeparator.Proofs.Session.Transcript

/-!
# A session line by line

With a sink that has room for it, a session is what its course says: `run_of_fits` is `rounds_value`
together with `performAll_of_fits`.  What remains is to count.  A course renders as many labels as
there are rounds (`countP_renders_course`), and the input it takes is the lines of its rounds and
the line that ends it, if one does (`taken_course`).

**`run_eq_reference`** puts this together for every input.
-/

namespace CommentSeparator.Session

open Text (decode?)

/-! ## Counting -/

lemma countP_renders_course (styles : Styles) {lines : List (List UInt8)} {k : ℕ}
    (hk : k ≤ lines.length) (ending : Ending) :
    (course styles lines k ending).countP Deed.renders = k := by
  have hrounds : ∀ lines : List (List UInt8),
      (lines.flatMap (round styles)).countP Deed.renders = lines.length := by
    intro lines
    induction lines with
    | nil => rfl
    | cons line lines ih =>
        rw [List.flatMap_cons, List.countP_append, ih, List.length_cons, Nat.add_comm]
        rfl
  have hending : (ending.deeds lines[k]?).countP Deed.renders = 0 := by
    cases ending <;> cases lines[k]? <;> rfl
  rw [course, List.countP_append, hrounds, hending, List.length_take,
    Nat.min_eq_left hk]
  rfl

lemma taken_course (styles : Styles) (lines : List (List UInt8)) (k : ℕ) (ending : Ending) :
    taken (course styles lines k ending)
      = (lines.take k ++ ending.lastRead lines[k]?).flatten := by
  have hrounds : ∀ lines : List (List UInt8),
      taken (lines.flatMap (round styles)) = lines.flatten := by
    intro lines
    induction lines with
    | nil => rfl
    | cons line lines ih =>
        rw [List.flatMap_cons, taken, List.flatMap_append, ← taken, ← taken, ih, List.flatten_cons]
        simp [round, taken, Deed.taken]
  have hending : taken (ending.deeds lines[k]?) = (ending.lastRead lines[k]?).flatten := by
    cases ending <;> cases lines[k]? <;> simp [Ending.deeds, Ending.lastRead, taken, Deed.taken]
  rw [List.flatten_append, ← hrounds, ← hending]
  exact List.flatMap_append

/-- What is read is the beginning of the input. -/
lemma read_prefix (lines : List (List UInt8)) (k : ℕ) (ending : Ending) :
    (lines.take k ++ ending.lastRead lines[k]?).flatten <+: lines.flatten := by
  obtain ⟨count, hcount⟩ : ∃ count,
      lines.take k ++ ending.lastRead lines[k]? = lines.take count := by
    cases ending with
    | countReached => exact ⟨k, List.append_nil _⟩
    | endOfInput => exact ⟨k, List.append_nil _⟩
    | notText => exact ⟨k + 1, List.take_add_one.symm⟩
    | quitWord => exact ⟨k + 1, List.take_add_one.symm⟩
  rw [hcount]
  refine ⟨(lines.drop count).flatten, ?_⟩
  rw [← List.flatten_append, List.take_append_drop]

/-! ## Sessions with enough room -/

/-- A session whose sink has room for it does its whole course. -/
theorem run_of_fits (styles : Styles) {policy : SessionPolicy} {sink : Sink} {input : List UInt8}
    {k : ℕ} {ending : Ending} (h : StopsAt policy 0 (inputLines input) k ending)
    (hfits : sink.Fits (written (course styles (inputLines input) k ending)).length) :
    (run styles policy sink input).value
      = ⟨Progress.after { sink } (course styles (inputLines input) k ending), ending.result k⟩ := by
  have hrendered := Progress.rendered_after { sink } (course styles (inputLines input) k ending)
  rw [countP_renders_course styles h.le_length, Nat.zero_add] at hrendered
  rw [run, rounds_value styles policy h, performAll_of_fits hfits, conclude, hrendered]

/-- A session whose sink has no limit does its whole course. -/
lemma run_unlimited (styles : Styles) {policy : SessionPolicy} {input : List UInt8} {k : ℕ}
    {ending : Ending} (h : StopsAt policy 0 (inputLines input) k ending) :
    (run styles policy {} input).value
      = ⟨Progress.after { sink := {} } (course styles (inputLines input) k ending),
          ending.result k⟩ :=
  run_of_fits styles h (Sink.fits_of_room_eq_none rfl _)

/-- Where a line is no text, the input is none. -/
lemma StopsAt.ne_notText {policy : SessionPolicy} {input : List UInt8} {text : String}
    (htext : decode? input = some text) {k : ℕ} {ending : Ending}
    (h : StopsAt policy 0 (inputLines input) k ending) : ending ≠ .notText := by
  rintro rfl
  rcases ending?_eq_some h.ending with ⟨-, hending⟩ | ⟨-, -, hending⟩ |
    ⟨-, line, hline, hlabel, -⟩ | ⟨-, -, -, -, -, -, hending⟩
  · exact Ending.noConfusion hending
  · exact Ending.noConfusion hending
  · obtain ⟨label, hsome⟩ := exists_label_of_decode? htext line (List.mem_of_getElem? hline)
    simp [hlabel] at hsome
  · exact Ending.noConfusion hending

/-- **A session is what its lines say.**  An input has its lines in one way, and a line has a label
iff it is text.  The session ends at the first line that is not rendered, by the first of the four
endings.  Up to there it prompts, reads and renders line by line; its turns, its result and what it
has read are those of this course.  On an input that is text it ends without an error. -/
theorem run_eq_reference (styles : Styles) (policy : SessionPolicy) (input : List UInt8) :
    let report := (run styles policy {} input).value
    (∀ line label, label? line = some label ↔ IsLabel line label)
      ∧ (∀ line, label? line = none ↔ decode? line = none)
      ∧ ∃ lines k ending, IsLines input lines ∧ (∀ other, IsLines input other → other = lines)
        ∧ StopsAt policy 0 lines k ending
        ∧ report.result = ending.result k ∧ report.progress.rendered = k
        ∧ report.progress.consumed = (lines.take k ++ ending.lastRead lines[k]?).flatten.length
        ∧ input.take report.progress.consumed = (lines.take k ++ ending.lastRead lines[k]?).flatten
        ∧ report.progress.sink.turns
          = turnsOf ((lines.take k).flatMap (round styles) ++ ending.deeds lines[k]?)
        ∧ (∀ error sinkFull, report.result = .error error →
          error.message sinkFull = "failed to read label: stream did not contain valid UTF-8")
        ∧ ∀ text, decode? input = some text → ∃ summary, report.result = .ok summary := by
  intro report
  obtain ⟨k, ending, h⟩ := exists_stopsAt policy 0 (inputLines input)
  refine ⟨fun _ _ => label?_eq_some_iff, fun _ => label?_eq_none_iff, inputLines input, k, ending,
    isLines_iff.mpr rfl, fun _ => isLines_iff.mp, h, ?_⟩
  have hconsumed := Progress.consumed_after { sink := {} }
    (course styles (inputLines input) k ending)
  rw [taken_course, Nat.zero_add] at hconsumed
  have hrendered := Progress.rendered_after { sink := {} }
    (course styles (inputLines input) k ending)
  rw [countP_renders_course styles h.le_length, Nat.zero_add] at hrendered
  have hreport : report = _ := run_unlimited styles h
  rw [hreport]
  refine ⟨rfl, hrendered, hconsumed, ?_, Progress.turns_after_of_empty rfl rfl _, ?_, ?_⟩
  · have hprefix := read_prefix (inputLines input) k ending
    rw [(isLines_inputLines input).flatten] at hprefix
    rw [hconsumed, ← List.prefix_iff_eq_take.mp hprefix]
  · intro error sinkFull herror
    cases ending <;> simp only [Ending.result, reduceCtorEq, Except.error.injEq] at herror
    obtain rfl := herror
    rfl
  · intro text htext
    have hne := h.ne_notText htext
    cases ending with
    | notText => exact absurd rfl hne
    | _ => exact ⟨_, rfl⟩

/-- One label is rendered, and the quit word is found behind it. -/
theorem run_eq_reference_of_quitWord :
    (∀ text, decode? (Text.encode "one\nq\n") = some text →
        ∃ summary, (run {} { quitWord := some "q" } {} (Text.encode "one\nq\n")).value.result
          = .ok summary)
      ∧ (run {} { quitWord := some "q" } {} (Text.encode "one\nq\n")).value.result
        = .ok ⟨1, .quitWord⟩ := by
  obtain ⟨-, -, lines, k, ending, hlines, -, h, hresult, -, -, -, -, -, hok⟩ :=
    run_eq_reference {} { quitWord := some "q" } (Text.encode "one\nq\n")
  have hone : label? (Text.encode "one\n") = some "one" :=
    label?_eq_some_iff.mpr (Or.inr (Or.inl ⟨rfl, by decide⟩))
  have hquit : label? (Text.encode "q\n") = some "q" :=
    label?_eq_some_iff.mpr (Or.inr (Or.inl ⟨rfl, by decide⟩))
  have hstop : StopsAt { quitWord := some "q" } 0 [Text.encode "one\n", Text.encode "q\n"] 1
      .quitWord := by
    refine StopsAt.cons_succ_iff.mpr ⟨?_, StopsAt.zero_iff.mpr ?_⟩
    · exact ending?_eq_none_iff.mpr ⟨rfl, _, "one", rfl, hone, by decide⟩
    · simp [ending?, hquit, SessionPolicy.reached]
  have hcut : inputLines (Text.encode "one\nq\n") = [Text.encode "one\n", Text.encode "q\n"] := by
    rfl
  rw [hlines.eq_inputLines, hcut] at h
  obtain ⟨rfl, rfl⟩ := h.unique hstop
  exact ⟨hok, hresult⟩

end CommentSeparator.Session
