import CommentSeparator.Proofs.Session.Reference

/-!
# Sessions that are cut and resumed

A session that has reached its cap can be gone on with.  The next session reads what the first one
has left, and the two together are one session with both caps: nothing is lost between them, and
nothing is done twice.  This is a matter of courses.  The first session ends at the line where the
second begins (`StopsAt.resumed`), so the course of the whole is the course of the first with the
course of the second behind it (`course_resumed`).

A session that ends by its cap or by the quit word has **read nothing ahead**: what stands behind
the lines it has read could be anything (`StopsAt.of_read`).
-/

namespace CommentSeparator.Session

/-! ## Two caps -/

/-- The cap is looked at first, so nothing else matters where it is reached. -/
lemma ending?_eq_countReached_iff {policy : SessionPolicy} {rendered : ℕ}
    {next : Option (List UInt8)} :
    ending? policy rendered next = some .countReached ↔ policy.reached rendered = true := by
  constructor
  · intro h
    rcases ending?_eq_some h with ⟨hreached, -⟩ | ⟨-, -, hne⟩ | ⟨-, -, -, -, hne⟩ |
      ⟨-, -, -, -, -, -, hne⟩
    · exact hreached
    all_goals exact Ending.noConfusion hne
  · intro hreached
    simp only [ending?, hreached, if_true]

/-- A cap reached ends a session at once, so it has rendered just as many labels. -/
lemma StopsAt.eq_cap {quitWord : Option String} {cap k : ℕ} {lines : List (List UInt8)}
    (h : StopsAt ⟨quitWord, some cap⟩ 0 lines k .countReached) : k = cap := by
  have hle : cap ≤ k := by
    simpa [SessionPolicy.reached] using ending?_eq_countReached_iff.mp h.ending
  refine Nat.le_antisymm (Nat.le_of_not_lt fun hlt => ?_) hle
  obtain ⟨hreached, -⟩ := ending?_eq_none_iff.mp (h.earlier cap hlt)
  simp [SessionPolicy.reached] at hreached

/-- Behind the first cap, a round of the whole session is a round of the second one. -/
lemma ending?_resumed (quitWord : Option String) (cap rendered : ℕ) (more : Option ℕ)
    (next : Option (List UInt8)) :
    ending? ⟨quitWord, more.map (cap + ·)⟩ (cap + rendered) next
      = ending? ⟨quitWord, more⟩ rendered next := by
  have hreached : SessionPolicy.reached ⟨quitWord, more.map (cap + ·)⟩ (cap + rendered)
      = SessionPolicy.reached ⟨quitWord, more⟩ rendered := by
    cases more <;> simp [SessionPolicy.reached]
  simp only [ending?, hreached]

/-- What does not end the first session does not end the whole. -/
lemma ending?_eq_none_of_first {quitWord : Option String} {cap rendered : ℕ}
    {next : Option (List UInt8)} (h : ending? ⟨quitWord, some cap⟩ rendered next = none)
    (more : Option ℕ) : ending? ⟨quitWord, more.map (cap + ·)⟩ rendered next = none := by
  obtain ⟨hreached, hnext⟩ := ending?_eq_none_iff.mp h
  refine ending?_eq_none_iff.mpr ⟨?_, hnext⟩
  have hlt : rendered < cap := by simpa [SessionPolicy.reached] using hreached
  cases more with
  | none => rfl
  | some more =>
      have hmore : rendered < cap + more := Nat.lt_add_right more hlt
      simpa [SessionPolicy.reached] using hmore

/-- **The whole session stops where the second one stops**, counted on from the first. -/
lemma StopsAt.resumed {quitWord : Option String} {cap k : ℕ} {more : Option ℕ}
    {lines : List (List UInt8)} {ending : Ending}
    (hfirst : StopsAt ⟨quitWord, some cap⟩ 0 lines cap .countReached)
    (hsecond : StopsAt ⟨quitWord, more⟩ 0 (lines.drop cap) k ending) :
    StopsAt ⟨quitWord, more.map (cap + ·)⟩ 0 lines (cap + k) ending := by
  constructor
  · have hending := hsecond.ending
    rw [List.getElem?_drop, Nat.zero_add] at hending
    rw [Nat.zero_add, ending?_resumed]
    exact hending
  · intro i hi
    rcases Nat.lt_or_ge i cap with hlt | hle
    · exact ending?_eq_none_of_first (hfirst.earlier i hlt) more
    · obtain ⟨j, rfl⟩ := Nat.exists_eq_add_of_le hle
      have hearlier := hsecond.earlier j (Nat.lt_of_add_lt_add_left hi)
      rw [List.getElem?_drop, Nat.zero_add] at hearlier
      rw [Nat.zero_add, ending?_resumed]
      exact hearlier

/-- The course of the whole session is that of the first, and then that of the second. -/
lemma course_resumed (styles : Styles) (lines : List (List UInt8)) (cap k : ℕ) (ending : Ending) :
    course styles lines (cap + k) ending
      = course styles lines cap .countReached ++ course styles (lines.drop cap) k ending := by
  simp only [course, Ending.deeds, List.append_nil, List.take_add, List.flatMap_append,
    List.append_assoc, List.getElem?_drop]

lemma Progress.after_append (progress : Progress) (deeds more : List Deed) :
    progress.after (deeds ++ more) = (progress.after deeds).after more :=
  List.foldl_append

lemma Ending.result_add (ending : Ending) (cap k : ℕ) :
    ending.result (cap + k)
      = (ending.result k).map fun summary => ⟨cap + summary.rendered, summary.stop⟩ := by
  cases ending <;> rfl

/-! ## Nothing is read ahead -/

/-- Where a session ends by its cap or by the quit word, it has read the lines before that place,
and the quit word.  Any other lines behind them make no difference. -/
lemma StopsAt.of_read {policy : SessionPolicy} {lines : List (List UInt8)} {k : ℕ}
    {ending : Ending} (h : StopsAt policy 0 lines k ending)
    (hending : ending = .countReached ∨ ending = .quitWord) (styles : Styles)
    (other : List (List UInt8)) :
    ∃ count, lines.take k ++ ending.lastRead lines[k]? = lines.take count
      ∧ StopsAt policy 0 (lines.take count ++ other) k ending
      ∧ course styles (lines.take count ++ other) k ending = course styles lines k ending := by
  have hearlier : ∀ count, k ≤ count → count ≤ lines.length → ∀ i < k,
      (lines.take count ++ other)[i]? = lines[i]? := by
    intro count hk hcount i hi
    rw [List.getElem?_append_left (by rw [List.length_take]; omega),
      List.getElem?_take_of_lt (Nat.lt_of_lt_of_le hi hk)]
  have htake : ∀ count, k ≤ count → count ≤ lines.length →
      (lines.take count ++ other).take k = lines.take k := by
    intro count hk hcount
    rw [List.take_append_of_le_length (by rw [List.length_take]; omega), List.take_take,
      Nat.min_eq_left hk]
  rcases hending with rfl | rfl
  · refine ⟨k, List.append_nil _, ⟨?_, fun i hi => ?_⟩, ?_⟩
    · exact ending?_eq_countReached_iff.mpr (ending?_eq_countReached_iff.mp h.ending)
    · rw [hearlier k (Nat.le_refl k) h.le_length i hi]
      exact h.earlier i hi
    · rw [course, course, htake k (Nat.le_refl k) h.le_length]
      rfl
  · have hlt : k < lines.length := by
      rcases ending?_eq_some h.ending with ⟨-, hne⟩ | ⟨-, -, hne⟩ | ⟨-, -, -, -, hne⟩ |
        ⟨-, line, -, hline, -⟩
      · exact Ending.noConfusion hne
      · exact Ending.noConfusion hne
      · exact Ending.noConfusion hne
      · exact (List.getElem?_eq_some_iff.mp hline).1
    have hlast : (lines.take (k + 1) ++ other)[k]? = lines[k]? := by
      rw [List.getElem?_append_left (by rw [List.length_take]; omega),
        List.getElem?_take_of_lt (Nat.lt_succ_self k)]
    refine ⟨k + 1, List.take_add_one.symm, ⟨?_, fun i hi => ?_⟩, ?_⟩
    · rw [hlast]
      exact h.ending
    · rw [hearlier (k + 1) (Nat.le_succ k) hlt i hi]
      exact h.earlier i hi
    · rw [course, course, htake (k + 1) (Nat.le_succ k) hlt, hlast]

/-! ## Sessions in parts -/

/-- The input that a session has read. -/
lemma take_taken_course (styles : Styles) (input : List UInt8) (k : ℕ) (ending : Ending) :
    input.take (taken (course styles (inputLines input) k ending)).length
      = taken (course styles (inputLines input) k ending) := by
  have hprefix := read_prefix (inputLines input) k ending
  rw [(isLines_inputLines input).flatten] at hprefix
  rw [taken_course, ← List.prefix_iff_eq_take.mp hprefix]

/-- The lines behind what a session has read that reached its cap. -/
lemma inputLines_drop_taken (styles : Styles) (input : List UInt8) (cap : ℕ) :
    inputLines
        (input.drop (taken (course styles (inputLines input) cap .countReached)).length)
      = (inputLines input).drop cap := by
  have hlines := isLines_inputLines input
  have hinput : input
      = ((inputLines input).take cap).flatten ++ ((inputLines input).drop cap).flatten := by
    rw [← List.flatten_append, List.take_append_drop, hlines.flatten]
  have htaken : taken (course styles (inputLines input) cap .countReached)
      = ((inputLines input).take cap).flatten := by
    rw [taken_course, Ending.lastRead, List.append_nil]
  have hdrop : input.drop (((inputLines input).take cap).flatten).length
      = ((inputLines input).drop cap).flatten :=
    (congrArg (List.drop _) hinput).trans List.drop_left
  rw [htaken, hdrop]
  exact (hlines.drop cap).eq_inputLines.symm

/-- **The course of a session that is cut.**  One that ends by its cap has done the rounds of the
lines up to there. -/
lemma run_of_countReached (styles : Styles) {quitWord : Option String} {cap rendered : ℕ}
    {input : List UInt8}
    (h : (run styles ⟨quitWord, some cap⟩ {} input).value.result = .ok ⟨rendered, .countReached⟩) :
    rendered = cap ∧ StopsAt ⟨quitWord, some cap⟩ 0 (inputLines input) cap .countReached := by
  obtain ⟨k, ending, hstops⟩ := exists_stopsAt ⟨quitWord, some cap⟩ 0 (inputLines input)
  rw [run_unlimited styles hstops] at h
  cases ending with
  | countReached =>
      obtain rfl := hstops.eq_cap
      simp only [Ending.result, Except.ok.injEq, Summary.mk.injEq, and_true] at h
      exact ⟨h.symm, hstops⟩
  | endOfInput => simp [Ending.result] at h
  | notText => simp [Ending.result] at h
  | quitWord => simp [Ending.result] at h

/-- **Nothing is read ahead.**  Where a session ends by its cap or by the quit word, and not within
a line, other octets behind what it has read make no difference. -/
lemma run_of_read (styles : Styles) {policy : SessionPolicy} {input : List UInt8}
    {summary : Summary} (h : (run styles policy {} input).value.result = .ok summary)
    (hstop : summary.stop ≠ .endOfInput)
    (hended : ∀ last ∈ (input.take
      (run styles policy {} input).value.progress.consumed).getLast?, last = 10)
    (other : List UInt8) :
    (run styles policy {} (input.take (run styles policy {} input).value.progress.consumed
        ++ other)).value
      = (run styles policy {} input).value := by
  obtain ⟨k, ending, hstops⟩ := exists_stopsAt policy 0 (inputLines input)
  have hrun := run_unlimited styles hstops
  have hending : ending = .countReached ∨ ending = .quitWord := by
    rw [hrun] at h
    cases ending with
    | countReached => exact Or.inl rfl
    | quitWord => exact Or.inr rfl
    | notText => simp [Ending.result] at h
    | endOfInput => exact absurd (congrArg Summary.stop (Except.ok.inj h)).symm hstop
  obtain ⟨count, hcount, hsame, hcourse⟩ := hstops.of_read hending styles (inputLines other)
  have hread : input.take (run styles policy {} input).value.progress.consumed
      = ((inputLines input).take count).flatten := by
    rw [hrun, Progress.consumed_after, Nat.zero_add, take_taken_course, taken_course, hcount]
  have hlines : inputLines (((inputLines input).take count).flatten ++ other)
      = (inputLines input).take count ++ inputLines other := by
    rw [inputLines_append_of_ended (hread ▸ hended), (isLines_inputLines input).inputLines_take]
  have hother := run_unlimited styles (hlines.symm ▸ hsame)
  rw [hread, hother, hrun, hlines, hcourse]

/-- **A session can be cut and resumed.**  If it ends by its cap, a second session over the input
that it has left, with any cap or none, completes it to the session with both caps: the output goes
on where it was, the turn that was open at the seam is continued by the first turn of the second
session, the counts add up, and the second session says how it all ended.  And where a session ends
by its cap or by the quit word, and not within a line, what stands behind could be any octets. -/
theorem run_resumed (styles : Styles) (quitWord : Option String) (input : List UInt8) :
    let session := fun (cap : Option ℕ) (input : List UInt8) =>
      (run styles ⟨quitWord, cap⟩ {} input).value
    (∀ cap rendered, (session (some cap) input).result = .ok ⟨rendered, .countReached⟩ →
        ∀ more : Option ℕ,
          let first := session (some cap) input
          let second := session more (input.drop first.progress.consumed)
          let whole := session (more.map (cap + ·)) input
          whole.progress.sink.octets = first.progress.sink.octets ++ second.progress.sink.octets
            ∧ whole.progress.sink.turns
              = first.progress.sink.closed.reverse
                ++ second.progress.sink.turns.modifyHead (first.progress.sink.current ++ ·)
            ∧ whole.progress.rendered = first.progress.rendered + second.progress.rendered
            ∧ whole.progress.consumed = first.progress.consumed + second.progress.consumed
            ∧ whole.result
              = second.result.map fun summary => ⟨rendered + summary.rendered, summary.stop⟩)
      ∧ ∀ cap summary, (session cap input).result = .ok summary → summary.stop ≠ .endOfInput →
          let read := input.take (session cap input).progress.consumed
          read = [] ∨ read.getLast? = some 10 →
            ∀ other, session cap (read ++ other) = session cap input := by
  intro session
  constructor
  · intro cap rendered hresult more first second whole
    obtain ⟨rfl, hfirst⟩ := run_of_countReached styles hresult
    have hleft : inputLines (input.drop first.progress.consumed)
        = (inputLines input).drop rendered := by
      rw [show first = _ from run_unlimited styles hfirst, Progress.consumed_after, Nat.zero_add,
        inputLines_drop_taken]
    obtain ⟨k, ending, hsecond⟩ :=
      exists_stopsAt ⟨quitWord, more⟩ 0 ((inputLines input).drop rendered)
    have hrun : first = _ := run_unlimited styles hfirst
    have hrest : second = _ := run_unlimited styles (hleft.symm ▸ hsecond)
    have hall : whole = _ := run_unlimited styles (hfirst.resumed hsecond)
    rw [hleft] at hrest
    rw [course_resumed, Progress.after_append] at hall
    rw [hall, hrest, hrun]
    refine ⟨?_, ?_, ?_, ?_, ending.result_add rendered k⟩
    · rw [Progress.octets_after, Progress.octets_after { sink := {} } (course _ _ k ending)]
      rfl
    · rw [Progress.turns_after, Progress.turns_after_of_empty rfl rfl]
    · rw [Progress.rendered_after, Progress.rendered_after { sink := {} } (course _ _ k ending),
        Nat.zero_add]
    · rw [Progress.consumed_after, Progress.consumed_after { sink := {} } (course _ _ k ending),
        Nat.zero_add]
  · intro cap summary hresult hstop read hended
    refine run_of_read styles hresult hstop ?_
    show ∀ last ∈ read.getLast?, last = 10
    rcases hended with hnil | hlast
    · simp [hnil]
    · simp [hlast]

/-- Cut behind the first line, and gone on with over a last line that is not ended.  The octets of
that line do not matter to the first part. -/
theorem run_resumed_of_two_lines :
    (run {} ⟨none, some 1⟩ {} (Text.encode "a\nb")).value.result = .ok ⟨1, .countReached⟩
      ∧ (run {} ⟨none, none⟩ {} (Text.encode "a\nb")).value.result = .ok ⟨2, .endOfInput⟩
      ∧ ∀ other, (run {} ⟨none, some 1⟩ {} (Text.encode "a\n" ++ other)).value
        = (run {} ⟨none, some 1⟩ {} (Text.encode "a\nb")).value := by
  have hfirst : (run {} ⟨none, some 1⟩ {} (Text.encode "a\nb")).value.result
      = .ok ⟨1, .countReached⟩ := rfl
  obtain ⟨hcut, hread⟩ := run_resumed {} none (Text.encode "a\nb")
  obtain ⟨-, -, -, -, hwhole⟩ := hcut 1 1 hfirst none
  exact ⟨hfirst, hwhole.trans rfl, hread (some 1) _ hfirst (by decide) (Or.inr rfl)⟩

end CommentSeparator.Session
