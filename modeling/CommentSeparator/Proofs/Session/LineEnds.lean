import CommentSeparator.Proofs.Session.Record

/-!
# How lines are ended

The same labels can be typed in many ways.  A line can be ended by a line feed, or by a carriage
return and a line feed, and the last one need not be ended at all.  `TypedAs` lists the ways.  A
session does not see them: **whatever it shows of its input, it shows of the labels**
(`run_of_typed`).

This rests on two facts.  The labels of the lines are the labels that were typed (`typedAs_iff`),
and they are so exactly: one end is taken off each line, so what is typed stands for one list of
labels only.  And reading a line counts its octets and does nothing else to a session
(`uncounted_performAll`), so only the labels decide where it stops and what it writes.
-/

namespace CommentSeparator.Session

open Text (encode decode?)

/-! ## Typed labels -/

/-- The ways to type some labels, each on a line of its own.  A carriage return at the end of a
label is a part of it, so that label needs another one if its line is to be ended.  The last line
need not be ended, unless there is nothing else of it. -/
inductive TypedAs : List String → List UInt8 → Prop where
  | nil : TypedAs [] []
  | unended {label : String} (oneLine : IsOneLine label) (nonempty : label ≠ "") :
      TypedAs [label] (encode label)
  | feed {label : String} {labels : List String} {rest : List UInt8} (oneLine : IsOneLine label)
      (noReturn : label.toList.getLast? ≠ some '\r') (more : TypedAs labels rest) :
      TypedAs (label :: labels) (encode (label ++ "\n") ++ rest)
  | returnFeed {label : String} {labels : List String} {rest : List UInt8}
      (oneLine : IsOneLine label) (more : TypedAs labels rest) :
      TypedAs (label :: labels) (encode (label ++ "\r\n") ++ rest)

lemma encode_eq_nil_iff {text : String} : encode text = [] ↔ text = "" := by
  rw [← Text.encode_empty]
  exact ⟨fun h => Text.encode_inj h, fun h => h ▸ rfl⟩

/-- A text on one line, and an end for it, are the first line of an input. -/
lemma inputLines_ended {text : String} (h : IsOneLine text) (rest : List UInt8) :
    inputLines (encode (text ++ "\n") ++ rest) = encode (text ++ "\n") :: inputLines rest := by
  have hfeed : 10 ∉ encode text := lineFeed_notMem_encode_iff.mpr h
  have hended : encode (text ++ "\n") = encode text ++ [10] := Text.encode_append _ _
  rw [hended, List.append_assoc, List.singleton_append, inputLines_append_lineFeed hfeed]

lemma append_return_feed (label : String) : label ++ "\r\n" = label ++ "\r" ++ "\n" := by
  rw [String.append_assoc]
  rfl

/-- The lines of typed labels have these labels. -/
lemma TypedAs.map_label? {labels : List String} {input : List UInt8} (h : TypedAs labels input) :
    (inputLines input).map label? = labels.map some := by
  induction h with
  | nil => rfl
  | @unended label oneLine nonempty =>
      have hfeed : 10 ∉ encode label := lineFeed_notMem_encode_iff.mpr oneLine
      have hlast : label.toList.getLast? ≠ some '\n' := fun hlast =>
        oneLine (List.mem_of_getLast? hlast)
      have hlabel : label? (encode label) = some label :=
        label?_eq_some_iff.mpr (Or.inr (Or.inr ⟨rfl, hlast⟩))
      rw [inputLines_of_notMem hfeed (encode_eq_nil_iff.not.mpr nonempty)]
      simp [hlabel]
  | @feed label labels rest oneLine noReturn more ih =>
      have hlabel : label? (encode (label ++ "\n")) = some label :=
        label?_eq_some_iff.mpr (Or.inr (Or.inl ⟨rfl, noReturn⟩))
      rw [inputLines_ended oneLine, List.map_cons, hlabel, ih, List.map_cons]
  | @returnFeed label labels rest oneLine more ih =>
      have hlabel : label? (encode (label ++ "\r\n")) = some label :=
        label?_eq_some_iff.mpr (Or.inl rfl)
      have hreturn : IsOneLine "\r" := by unfold IsOneLine; decide
      rw [List.map_cons, ← hlabel, ← ih, append_return_feed,
        inputLines_ended (oneLine.append hreturn), List.map_cons]

/-- Lines that have labels are typed labels. -/
lemma IsLines.typedAs {input : List UInt8} {lines : List (List UInt8)} (h : IsLines input lines)
    {labels : List String} (hlabels : lines.map label? = labels.map some) :
    TypedAs labels input := by
  induction lines generalizing input labels with
  | nil =>
      obtain rfl : [] = input := h.flatten
      obtain rfl : labels = [] := by simpa using hlabels.symm
      exact .nil
  | cons line lines ih =>
      obtain ⟨label, labels, rfl⟩ : ∃ label more, labels = label :: more := by
        cases labels with
        | nil => simp at hlabels
        | cons label labels => exact ⟨label, labels, rfl⟩
      rw [List.map_cons, List.map_cons, List.cons.injEq] at hlabels
      obtain ⟨hlabel, hmore⟩ := hlabels
      have hone : IsOneLine label := isOneLine_of_label? (h.inner line List.mem_cons_self) hlabel
      have htail : TypedAs labels lines.flatten := ih h.tail hmore
      rw [← h.flatten, List.flatten_cons]
      rcases label?_eq_some_iff.mp hlabel with rfl | ⟨rfl, hlast⟩ | ⟨rfl, -⟩
      · exact .returnFeed hone htail
      · exact .feed hone hlast htail
      · -- a line that was not ended is the last one
        have hfeed : 10 ∉ encode label := lineFeed_notMem_encode_iff.mpr hone
        have hne : label ≠ "" :=
          encode_eq_nil_iff.not.mp (h.nonempty _ List.mem_cons_self)
        rcases h.first_cases with ⟨body, -, hbody⟩ | ⟨-, rfl⟩
        · exact absurd (hbody ▸ List.mem_append_right body List.mem_cons_self) hfeed
        · obtain rfl : labels = [] := by simpa using hmore.symm
          rw [List.flatten_nil, List.append_nil]
          exact .unended hone hne

/-- **An input is typed labels if these are the labels of its lines.** -/
theorem typedAs_iff {labels : List String} {input : List UInt8} :
    TypedAs labels input ↔ (inputLines input).map label? = labels.map some :=
  ⟨TypedAs.map_label?, (isLines_inputLines input).typedAs⟩

/-- What is typed stands for one list of labels. -/
lemma TypedAs.unique {labels other : List String} {input : List UInt8} (h : TypedAs labels input)
    (hother : TypedAs other input) : other = labels :=
  (List.map_inj_right fun _ _ => Option.some.inj).mp
    ((typedAs_iff.mp hother).symm.trans (typedAs_iff.mp h))

/-! ## Where a session over labels stops -/

/-- What ends a session before it renders the next label, if anything does: the cap, the end of the
input, or the quit word, looked at in this order. -/
def stop? (policy : SessionPolicy) (rendered : ℕ) (next : Option String) : Option Stop :=
  if policy.reached rendered then some .countReached
  else
    match next with
    | none => some .endOfInput
    | some label => if policy.quitWord = some label then some .quitWord else none

/-- The first label that is not rendered, counted from 0, and what ends the session there. -/
structure StopsBefore (policy : SessionPolicy) (labels : List String) (k : ℕ) (stop : Stop) :
    Prop where
  stop : stop? policy k labels[k]? = some stop
  earlier : ∀ i < k, stop? policy i labels[i]? = none

/-- A session stops in one place. -/
lemma StopsBefore.unique {policy : SessionPolicy} {labels : List String} {k k' : ℕ}
    {stop stop' : Stop} (h : StopsBefore policy labels k stop)
    (h' : StopsBefore policy labels k' stop') : k = k' ∧ stop = stop' :=
  first_unique h.stop h.earlier h'.stop h'.earlier

/-- The ending of a session that stops. -/
def Ending.ofStop : Stop → Ending
  | .countReached => .countReached
  | .endOfInput => .endOfInput
  | .quitWord => .quitWord

/-- What ends a session depends on the label of the next line. -/
lemma ending?_of_label {next : Option (List UInt8)} {label : Option String}
    (h : next.map label? = label.map some) (policy : SessionPolicy) (rendered : ℕ) :
    ending? policy rendered next = (stop? policy rendered label).map Ending.ofStop := by
  unfold ending? stop?
  split_ifs with hreached
  · rfl
  · cases next with
    | none =>
        obtain rfl : label = none := by simpa using h.symm
        rfl
    | some line =>
        obtain ⟨label, rfl⟩ : ∃ found, label = some found := by
          cases label with
          | none => simp at h
          | some label => exact ⟨label, rfl⟩
        have hlabel : label? line = some label := Option.some.inj h
        simp only [hlabel]
        split_ifs <;> rfl

/-- A session over typed labels stops before one of them, and not because of a line that is no
text. -/
lemma TypedAs.exists_stopsAt {labels : List String} {input : List UInt8} (h : TypedAs labels input)
    (policy : SessionPolicy) :
    ∃ k stop, StopsBefore policy labels k stop
      ∧ StopsAt policy 0 (inputLines input) k (.ofStop stop) := by
  obtain ⟨k, ending, hstops⟩ := Session.exists_stopsAt policy 0 (inputLines input)
  have hround : ∀ i, ending? policy (0 + i) (inputLines input)[i]?
      = (stop? policy i labels[i]?).map Ending.ofStop := by
    intro i
    rw [Nat.zero_add]
    refine ending?_of_label ?_ policy i
    rw [← List.getElem?_map, ← List.getElem?_map, h.map_label?]
  obtain ⟨stop, hstop, rfl⟩ := Option.map_eq_some_iff.mp ((hround k).symm.trans hstops.ending)
  refine ⟨k, stop, ⟨hstop, fun i hi => ?_⟩, hstops⟩
  exact Option.map_eq_none_iff.mp ((hround i).symm.trans (hstops.earlier i hi))

/-! ## What a session shows -/

/-- What a deed writes. -/
def Deed.piece? : Deed → Option Piece
  | write piece => some piece
  | read _ => none

/-- A report without the count of what was read. -/
def Report.uncounted (report : Report) : Report :=
  { report with progress := { report.progress with consumed := 0 } }

/-- **Reading is counted, and nothing else.**  Without the count, deeds leave what their writes
leave. -/
lemma uncounted_performAll (ending : Ending) (progress : Progress) (deeds : List Deed) :
    (conclude ending (performAll progress deeds)).uncounted
      = conclude ending (performAll { progress with consumed := 0 }
          ((deeds.filterMap Deed.piece?).map .write)) := by
  induction deeds generalizing progress with
  | nil => rfl
  | cons deed deeds ih =>
      cases deed with
      | read line => exact ih { progress with consumed := progress.consumed + line.length }
      | write piece =>
          show (conclude ending (performAll progress (.write piece :: deeds))).uncounted
            = conclude ending (performAll _ (.write piece :: _))
          rw [performAll_cons, performAll_cons]
          simp only [Deed.perform]
          split_ifs
          · -- the write is whole, and goes on from the same progress but for the count
            refine (ih _).trans ?_
            cases piece <;> rfl
          · rfl

/-- What is written behind the last label, before a session stops. -/
def endPieces : Stop → List Piece
  | .countReached => []
  | .endOfInput => [.prompt, .lineFeed]
  | .quitWord => [.prompt]

/-- What a session writes for the labels that it renders, and behind them. -/
def pieces (styles : Styles) (labels : List String) (stop : Stop) : List Piece :=
  labels.flatMap (fun label => [.prompt, .separators (styles.render label).value])
    ++ endPieces stop

/-- The course of a session over typed labels writes what these say. -/
lemma TypedAs.pieces_course {labels : List String} {input : List UInt8} (h : TypedAs labels input)
    (styles : Styles) (k : ℕ) (stop : Stop) :
    (course styles (inputLines input) k (.ofStop stop)).filterMap Deed.piece?
      = pieces styles (labels.take k) stop := by
  have hrounds : ∀ (lines : List (List UInt8)) (labels : List String),
      lines.map label? = labels.map some →
      (lines.flatMap (round styles)).filterMap Deed.piece?
        = labels.flatMap (fun label => [.prompt, .separators (styles.render label).value]) := by
    intro lines
    induction lines with
    | nil =>
        intro labels hlabels
        obtain rfl : labels = [] := by simpa using hlabels.symm
        rfl
    | cons line lines ih =>
        intro labels hlabels
        cases labels with
        | nil => simp at hlabels
        | cons label labels =>
            rw [List.map_cons, List.map_cons, List.cons.injEq] at hlabels
            obtain ⟨hlabel, hmore⟩ := hlabels
            rw [List.flatMap_cons, List.flatMap_cons, List.filterMap_append, ih labels hmore, round,
              hlabel]
            rfl
  have hending : ((Ending.ofStop stop).deeds (inputLines input)[k]?).filterMap Deed.piece?
      = endPieces stop := by
    cases stop <;> cases (inputLines input)[k]? <;> rfl
  rw [course, List.filterMap_append, hending, pieces, hrounds _ (labels.take k)]
  rw [List.map_take, h.map_label?, List.map_take]

/-- What a session over typed labels shows, whatever its sink takes. -/
lemma TypedAs.uncounted_run {labels : List String} {input : List UInt8} (h : TypedAs labels input)
    (styles : Styles) {policy : SessionPolicy} {k : ℕ} {stop : Stop}
    (hstops : StopsAt policy 0 (inputLines input) k (.ofStop stop)) (sink : Sink) :
    (run styles policy sink input).value.uncounted
      = conclude (.ofStop stop)
          (performAll { sink } ((pieces styles (labels.take k) stop).map .write)) := by
  rw [← h.pieces_course styles, run, rounds_value styles policy hstops, uncounted_performAll]

/-- A carriage return that stands in front of an end, or at the end of the input, belongs to its
label. -/
lemma TypedAs.getElem?_of_return {labels : List String} {input : List UInt8}
    (h : TypedAs labels input) {i : ℕ} {x : String}
    (hline : (inputLines input)[i]? = some (encode (x ++ "\r\r\n"))
      ∨ (inputLines input)[i]? = some (encode (x ++ "\r"))) :
    labels[i]? = some (x ++ "\r") := by
  have hlabel : (inputLines input)[i]?.map label? = some (some (x ++ "\r")) := by
    rcases hline with hline | hline <;> rw [hline, Option.map_some, Option.some.injEq,
      label?_eq_some_iff]
    · exact Or.inl (by rw [String.append_assoc]; rfl)
    · exact Or.inr (Or.inr ⟨rfl, by simp⟩)
  rw [← List.getElem?_map, h.map_label?, List.getElem?_map] at hlabel
  simpa using hlabel

/-- **A session sees the labels and not how their lines are ended.**

However the same labels are typed, a session leaves the same in its sink, turn by turn, renders as
many of them, and has the same result, also where its sink does not take everything.  With a sink
that does, the session stops before the first label that the cap or the quit word forbids, or behind
the last label, and it writes the separators of the labels before.  What is typed stands for one
list of labels, and only one end is taken off each line: a carriage return in front of that end, or
at the end of the input, belongs to its label. -/
theorem run_of_typed (styles : Styles) (policy : SessionPolicy) {labels : List String}
    {input : List UInt8} (htyped : TypedAs labels input) :
    let session := fun (sink : Sink) (input : List UInt8) => (run styles policy sink input).value
    (∀ sink other, TypedAs labels other →
        (session sink other).progress.sink = (session sink input).progress.sink
          ∧ (session sink other).progress.rendered = (session sink input).progress.rendered
          ∧ (session sink other).result = (session sink input).result)
      ∧ (∃ k stop, StopsBefore policy labels k stop
          ∧ (session {} input).result = .ok ⟨k, stop⟩
          ∧ (session {} input).progress.rendered = k
          ∧ (session {} input).progress.sink.turns
            = turnsOf ((pieces styles (labels.take k) stop).map .write))
      ∧ (∀ other, TypedAs other input → other = labels)
      ∧ ∀ (i : ℕ) (x : String),
          (inputLines input)[i]? = some (encode (x ++ "\r\r\n"))
            ∨ (inputLines input)[i]? = some (encode (x ++ "\r")) →
          labels[i]? = some (x ++ "\r") := by
  intro session
  obtain ⟨k, stop, hbefore, hstops⟩ := htyped.exists_stopsAt policy
  refine ⟨fun sink other hother => ?_, ⟨k, stop, hbefore, ?_⟩, fun _ => htyped.unique,
    fun _ _ => htyped.getElem?_of_return⟩
  · obtain ⟨k', stop', hbefore', hstops'⟩ := hother.exists_stopsAt policy
    obtain ⟨rfl, rfl⟩ := hbefore.unique hbefore'
    have hsame : (session sink other).uncounted = (session sink input).uncounted :=
      (hother.uncounted_run styles hstops' sink).trans
        (htyped.uncounted_run styles hstops sink).symm
    exact ⟨congrArg (·.progress.sink) hsame, congrArg (·.progress.rendered) hsame,
      congrArg (·.result) hsame⟩
  · have hrun : session {} input = _ := run_unlimited styles hstops
    have hshown := htyped.uncounted_run styles hstops {}
    rw [performAll_of_fits (Sink.fits_of_room_eq_none rfl _)] at hshown
    refine ⟨?_, ?_, ?_⟩
    · rw [hrun]
      cases stop <;> rfl
    · rw [hrun, Progress.rendered_after, countP_renders_course styles hstops.le_length,
        Nat.zero_add]
    · have hturns := congrArg (·.progress.sink.turns) hshown
      exact hturns.trans (Progress.turns_after_of_empty rfl rfl _)

/-- Three labels in two ways, the second of them with a carriage return, the third the quit word. -/
theorem run_of_typed_of_three_labels :
    let policy : SessionPolicy := { quitWord := some "q" }
    TypedAs ["a", "b\r", "q"] (encode "a\nb\r\r\nq")
      ∧ TypedAs ["a", "b\r", "q"] (encode "a\r\nb\r\r\nq\r\n")
      ∧ (run {} policy {} (encode "a\nb\r\r\nq")).value.result = .ok ⟨2, .quitWord⟩
      ∧ (run {} policy {} (encode "a\r\nb\r\r\nq\r\n")).value.progress.sink.turns
        = (run {} policy {} (encode "a\nb\r\r\nq")).value.progress.sink.turns
      ∧ (inputLines (encode "a\nb\r\r\nq"))[1]? = some (encode ("b" ++ "\r\r\n"))
      ∧ ["a", "b\r", "q"][1]? = some ("b" ++ "\r") := by
  intro policy
  have hone : IsOneLine "a" ∧ IsOneLine "b\r" ∧ IsOneLine "q" := by
    refine ⟨?_, ?_, ?_⟩ <;> unfold IsOneLine <;> decide
  obtain ⟨ha, hb, hq⟩ := hone
  have htyped : TypedAs ["a", "b\r", "q"] (encode "a\nb\r\r\nq") :=
    .feed ha (by decide) (.returnFeed hb (.unended hq (by decide)))
  have hother : TypedAs ["a", "b\r", "q"] (encode "a\r\nb\r\r\nq\r\n") :=
    .returnFeed ha (.returnFeed hb (.returnFeed hq .nil))
  have hline : (inputLines (encode "a\nb\r\r\nq"))[1]? = some (encode ("b" ++ "\r\r\n")) := rfl
  obtain ⟨hsame, -, -, hreturn⟩ := run_of_typed {} policy htyped
  obtain ⟨hsink, -, -⟩ := hsame {} _ hother
  exact ⟨htyped, hother, rfl, congrArg Sink.turns hsink, hline, hreturn 1 "b" (.inl hline)⟩

end CommentSeparator.Session
