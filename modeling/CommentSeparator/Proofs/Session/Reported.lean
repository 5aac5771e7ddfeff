import CommentSeparator.Proofs.Session.Reference

/-!
# What a session reports

A round reports what is reported of the separators that it renders, and nothing else.  A session
reports what its rounds do, one after the other, and at the end that it is finished, unless it
breaks off.  **Every label that is rendered is reported on, in order, and no other is**
(`events_run`).
-/

namespace CommentSeparator.Session

/-- What is reported at the end of a session: its summary, if it has one. -/
def Ending.events (rendered : ℕ) (ending : Ending) : List Event :=
  match ending.result rendered with
  | .ok summary => [.sessionFinished summary]
  | .error _ => []

/-- What is reported when a line is rendered. -/
def roundEvents (styles : Styles) (line : List UInt8) : List Event :=
  (styles.render ((label? line).getD "")).events

/-- A sink without a limit stays one. -/
lemma room_after {progress : Progress} (hroom : progress.sink.room = none) (deeds : List Deed) :
    (progress.after deeds).sink.room = none := by
  induction deeds generalizing progress with
  | nil => exact hroom
  | cons deed deeds ih => exact ih (by rw [Deed.room_apply, hroom, Option.map_none])

/-- Nor does it refuse a prompt. -/
lemma perform_prompt {progress : Progress} (hroom : progress.sink.room = none) :
    Deed.perform progress (.write .prompt) = .ok ((Deed.write .prompt).apply progress) :=
  Deed.perform_of_fits (Sink.fits_of_room_eq_none hroom _)

/-! ## Half rounds -/

lemma ask_events (policy : SessionPolicy) (progress : Progress) :
    (ask policy progress).events
      = if policy.reached progress.rendered then
          Ending.countReached.events progress.rendered
        else [] := by
  unfold ask
  split_ifs with hreached
  · rfl
  · cases hwhole : (progress.sink.writeText prompt).whole <;> simp [hwhole]

lemma endInput_events {progress : Progress} (hroom : progress.sink.room = none) :
    (endInput progress).events = Ending.endOfInput.events progress.rendered := by
  have hfits := Sink.fits_of_room_eq_none hroom (Text.encode "\n").length
  simp only [endInput, Sink.writeText, Sink.write_of_fits hfits, if_true]
  rfl

lemma answer_events_of_notText (styles : Styles) (policy : SessionPolicy) (progress : Progress)
    {line : List UInt8} (h : label? line = none) :
    (answer styles policy progress line).events = Ending.notText.events progress.rendered := by
  rw [label?_eq_none_iff] at h
  simp only [answer, h]
  rfl

lemma answer_events_of_quitWord (styles : Styles) {policy : SessionPolicy} (progress : Progress)
    {line : List UInt8} {label : String} (h : label? line = some label)
    (hquit : policy.quitWord = some label) :
    (answer styles policy progress line).events = Ending.quitWord.events progress.rendered := by
  obtain ⟨text, htext, rfl⟩ := Option.map_eq_some_iff.mp h
  simp only [answer, htext, hquit, if_true]
  rfl

/-- Whether the separators can be written makes no difference to what is reported of them. -/
lemma answer_events_of_label (styles : Styles) {policy : SessionPolicy} (progress : Progress)
    {line : List UInt8} {label : String} (h : label? line = some label)
    (hquit : policy.quitWord ≠ some label) :
    (answer styles policy progress line).events = roundEvents styles line := by
  rw [roundEvents, h, Option.getD_some]
  obtain ⟨text, htext, rfl⟩ := Option.map_eq_some_iff.mp h
  simp only [answer, htext, hquit, if_false, writeSeparators, Logged.events_bind]
  split_ifs <;> exact List.append_nil _

/-! ## Rounds -/

section Rounds

variable (styles : Styles) {policy : SessionPolicy} {progress : Progress}

lemma rounds_events_of_reached (h : policy.reached progress.rendered = true)
    (lines : List (List UInt8)) :
    (rounds styles policy progress lines).events
      = Ending.countReached.events progress.rendered := by
  cases lines <;> simp [rounds, ask_value, ask_events, h]

variable (h : policy.reached progress.rendered = false) (hroom : progress.sink.room = none)
include h hroom

lemma rounds_events_nil :
    (rounds styles policy progress []).events
      = Ending.endOfInput.events progress.rendered := by
  simp only [rounds, Logged.events_bind, ask_value, ask_events, h, perform_prompt hroom]
  exact endInput_events (room_after hroom [.write .prompt])

/-- A line is prompted for without a report, and then its round goes on as it was answered. -/
lemma rounds_events_cons (line : List UInt8) (lines : List (List UInt8)) :
    let answered := answer styles policy ((Deed.write .prompt).apply progress) line
    (rounds styles policy progress (line :: lines)).events
      = answered.events
        ++ match answered.value with
          | .error _ => []
          | .ok next => (rounds styles policy next lines).events := by
  simp only [rounds, Logged.events_bind, ask_value, ask_events, h, perform_prompt hroom,
    Bool.false_eq_true, if_false, List.nil_append]
  cases (answer styles policy ((Deed.write .prompt).apply progress) line).value <;> rfl

/-- A line that is rendered is reported on, and then the session goes on. -/
lemma rounds_events_of_label {line : List UInt8} {label : String}
    (hlabel : label? line = some label) (hquit : policy.quitWord ≠ some label)
    (lines : List (List UInt8)) :
    (rounds styles policy progress (line :: lines)).events
      = roundEvents styles line
        ++ (rounds styles policy (progress.after (round styles line)) lines).events := by
  have hasked : ((Deed.write .prompt).apply progress).sink.room = none :=
    room_after hroom [.write .prompt]
  have hanswer := answer_value_of_label styles ((Deed.write .prompt).apply progress) hlabel hquit
  rw [performAll_of_fits (Sink.fits_of_room_eq_none hasked _)] at hanswer
  rw [rounds_events_cons styles h hroom, answer_events_of_label styles _ hlabel hquit, hanswer]
  rfl

end Rounds

/-- **A session reports on what it renders**, label by label, and then that it is finished. -/
theorem events_rounds (styles : Styles) (policy : SessionPolicy) {progress : Progress}
    (hroom : progress.sink.room = none) {lines : List (List UInt8)} {k : ℕ} {ending : Ending}
    (h : StopsAt policy progress.rendered lines k ending) :
    (rounds styles policy progress lines).events
      = (lines.take k).flatMap (roundEvents styles) ++ ending.events (progress.rendered + k) := by
  generalize hrendered : progress.rendered = rendered at h
  induction h using StopsAt.induction generalizing progress with
  | countReached rendered lines h hreached =>
      subst hrendered
      exact rounds_events_of_reached styles hreached lines
  | endOfInput rendered h hreached =>
      subst hrendered
      exact rounds_events_nil styles hreached hroom
  | notText rendered line lines h hreached hlabel =>
      subst hrendered
      rw [rounds_events_cons styles hreached hroom,
        answer_events_of_notText styles policy _ hlabel,
        answer_value_of_notText styles policy _ hlabel]
      exact List.append_nil _
  | quitWord rendered line lines label h hreached hlabel hquit =>
      subst hrendered
      rw [rounds_events_cons styles hreached hroom,
        answer_events_of_quitWord styles _ hlabel hquit,
        answer_value_of_quitWord styles _ hlabel hquit]
      exact List.append_nil _
  | round rendered line lines label k ending h more hreached hlabel hquit ih =>
      subst hrendered
      have hnext : (progress.after (Session.round styles line)).rendered
          = progress.rendered + 1 := Progress.rendered_after progress _
      rw [rounds_events_of_label styles hreached hroom hlabel hquit,
        ih (room_after hroom (Session.round styles line)) hnext, List.take_succ_cons,
        List.flatMap_cons, List.append_assoc, Nat.add_right_comm, Nat.add_assoc]

/-- What a session reports whose sink has no limit. -/
lemma events_run (styles : Styles) {policy : SessionPolicy} {input : List UInt8} {k : ℕ}
    {ending : Ending} (h : StopsAt policy 0 (inputLines input) k ending) :
    (run styles policy {} input).events
      = ((inputLines input).take k).flatMap (roundEvents styles) ++ ending.events k := by
  have hstops : StopsAt policy ({ sink := {} } : Progress).rendered (inputLines input) k ending := h
  have hevents := events_rounds styles policy rfl hstops
  rw [Nat.zero_add] at hevents
  exact hevents

end CommentSeparator.Session
