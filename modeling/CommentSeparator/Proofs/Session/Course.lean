import CommentSeparator.Proofs.Output.Room
import CommentSeparator.Proofs.Session.Line

/-!
# The course of a session

What a session does to its surroundings is a list of deeds: it reads lines and writes prompts,
separators and a last line feed.  Which deeds these are does not depend on the sink.

**Where it stops.**  `ending?` is what one round finds, the four ways to end looked at in order, and
`StopsAt` the first round that finds something.  `course` is what is done up to there.

**How it goes.**  `performAll` does deeds one after the other, up to the first write that is
refused.  A session is the deeds of its course and the ending at their end (`rounds_value`),
whatever the sink.
-/

namespace CommentSeparator.Session

/-! ## Deeds -/

/-- What a session writes. -/
inductive Piece where
  | prompt
  /-- The separators for a label. -/
  | separators (lines : List String)
  /-- The line feed after the last prompt. -/
  | lineFeed
  deriving DecidableEq

/-- What a session does to its surroundings. -/
inductive Deed where
  | write (piece : Piece)
  | read (line : List UInt8)
  deriving DecidableEq

namespace Piece

def octets : Piece → List UInt8
  | prompt => Text.encode Session.prompt
  | separators lines => Sink.blockOctets lines
  | lineFeed => Text.encode "\n"

/-- What breaks the session off where the sink does not take all of a piece. -/
def refusal : Piece → SessionError
  | prompt => .promptRefused
  | separators _ => .separatorRefused
  | lineFeed => .endingRefused

/-- What the message says was being done. -/
def context : Piece → String
  | prompt => "failed to write prompt"
  | separators _ => "failed to write separator"
  | lineFeed => "failed to write output"

lemma message_refusal (piece : Piece) (sinkFull : String) :
    piece.refusal.message sinkFull = piece.context ++ ": " ++ sinkFull := by
  cases piece <;> rfl

/-- What follows a whole write: a flush after a prompt, one label more after separators. -/
def settle (progress : Progress) : Piece → Progress
  | prompt => { progress with sink := progress.sink.flush }
  | separators _ => { progress with rendered := progress.rendered + 1 }
  | lineFeed => progress

end Piece

namespace Deed

def octets : Deed → List UInt8
  | write piece => piece.octets
  | read _ => []

/-- The input that a deed takes. -/
def taken : Deed → List UInt8
  | write _ => []
  | read line => line

/-- Is a label rendered by a deed? -/
def renders : Deed → Bool
  | write (.separators _) => true
  | _ => false

/-- Does a deed, if the sink takes it whole. -/
def perform (progress : Progress) : Deed → Half
  | read line => .ok { progress with consumed := progress.consumed + line.length }
  | write piece =>
    let written := progress.sink.write piece.octets
    let progress := { progress with sink := written.sink }
    if written.whole then .ok (piece.settle progress) else .error (progress.fail piece.refusal)

end Deed

/-- Does deeds in order, up to the first that the sink refuses. -/
def performAll (progress : Progress) (deeds : List Deed) : Half :=
  deeds.foldlM Deed.perform progress

lemma performAll_cons (progress : Progress) (deed : Deed) (deeds : List Deed) :
    performAll progress (deed :: deeds)
      = deed.perform progress >>= fun next => performAll next deeds :=
  List.foldlM_cons

lemma performAll_singleton (progress : Progress) (deed : Deed) :
    performAll progress [deed] = deed.perform progress := by
  rw [performAll_cons]
  exact bind_pure _

lemma performAll_append (progress : Progress) (deeds more : List Deed) :
    performAll progress (deeds ++ more)
      = performAll progress deeds >>= fun next => performAll next more :=
  List.foldlM_append

lemma rendered_of_perform {progress next : Progress} {deed : Deed}
    (h : deed.perform progress = .ok next) :
    next.rendered = progress.rendered + if deed.renders then 1 else 0 := by
  cases deed with
  | read line =>
      obtain rfl := Except.ok.inj h
      rfl
  | write piece =>
      simp only [Deed.perform] at h
      split_ifs at h
      obtain rfl := Except.ok.inj h
      cases piece <;> rfl

lemma rendered_of_performAll {progress next : Progress} {deeds : List Deed}
    (h : performAll progress deeds = .ok next) :
    next.rendered = progress.rendered + deeds.countP Deed.renders := by
  induction deeds generalizing progress with
  | nil =>
      obtain rfl := Except.ok.inj h
      rfl
  | cons deed deeds ih =>
      rw [performAll_cons] at h
      cases hfirst : deed.perform progress with
      | error report => simp [hfirst, bind, Except.bind] at h
      | ok between =>
          rw [hfirst] at h
          rw [ih h, rendered_of_perform hfirst, List.countP_cons, Nat.add_right_comm, Nat.add_assoc]

/-! ## The end of a session -/

/-- The ways in which a session ends by itself. -/
inductive Ending where
  | countReached
  | endOfInput
  /-- The line that was read is no text. -/
  | notText
  | quitWord
  deriving DecidableEq

namespace Ending

/-- The result of a session that ends in this way. -/
def result (rendered : ℕ) : Ending → Except SessionError Summary
  | countReached => .ok ⟨rendered, .countReached⟩
  | endOfInput => .ok ⟨rendered, .endOfInput⟩
  | notText => .error .lineNotText
  | quitWord => .ok ⟨rendered, .quitWord⟩

/-- The line that is read before a session ends in this way. -/
def lastRead (next : Option (List UInt8)) : Ending → List (List UInt8)
  | countReached | endOfInput => []
  | notText | quitWord => next.toList

/-- What is done before a session ends in this way. -/
def deeds (next : Option (List UInt8)) : Ending → List Deed
  | countReached => []
  | endOfInput => [.write .prompt, .write .lineFeed]
  | notText => .write .prompt :: (notText.lastRead next).map .read
  | quitWord => .write .prompt :: (quitWord.lastRead next).map .read

end Ending

/-- What ends a session before it renders the next line, if anything does. -/
def ending? (policy : SessionPolicy) (rendered : ℕ) (next : Option (List UInt8)) : Option Ending :=
  if policy.reached rendered then some .countReached
  else
    match next with
    | none => some .endOfInput
    | some line =>
      match label? line with
      | none => some .notText
      | some label => if policy.quitWord = some label then some .quitWord else none

lemma ending?_eq_none_iff {policy : SessionPolicy} {rendered : ℕ} {next : Option (List UInt8)} :
    ending? policy rendered next = none
      ↔ policy.reached rendered = false
        ∧ ∃ line label, next = some line ∧ label? line = some label
          ∧ policy.quitWord ≠ some label := by
  unfold ending?
  cases hreached : policy.reached rendered with
  | true => simp
  | false =>
      cases next with
      | none => simp
      | some line => cases hlabel : label? line <;> simp [hlabel]

/-- What is found in a round that ends a session. -/
lemma ending?_eq_some {policy : SessionPolicy} {rendered : ℕ} {next : Option (List UInt8)}
    {ending : Ending} (h : ending? policy rendered next = some ending) :
    (policy.reached rendered = true ∧ ending = .countReached)
      ∨ (policy.reached rendered = false ∧ next = none ∧ ending = .endOfInput)
      ∨ (policy.reached rendered = false ∧ ∃ line, next = some line ∧ label? line = none
          ∧ ending = .notText)
      ∨ (policy.reached rendered = false ∧ ∃ line label, next = some line
          ∧ label? line = some label ∧ policy.quitWord = some label ∧ ending = .quitWord) := by
  unfold ending? at h
  cases hreached : policy.reached rendered with
  | true => simp_all
  | false =>
      cases next with
      | none => simp_all
      | some line => cases hlabel : label? line <;> simp_all

/-- There is one first number for which there is something. -/
lemma first_unique {α : Type} {f : ℕ → Option α} {i j : ℕ} {a b : α} (hi : f i = some a)
    (hbefore : ∀ n < i, f n = none) (hj : f j = some b) (hbefore' : ∀ n < j, f n = none) :
    i = j ∧ a = b := by
  rcases Nat.lt_trichotomy i j with hlt | rfl | hlt
  · simp [hbefore' i hlt] at hi
  · exact ⟨rfl, Option.some.inj (hi.symm.trans hj)⟩
  · simp [hbefore j hlt] at hj

/-- The first line that is not rendered, counted from 0, and what ends the session there. -/
structure StopsAt (policy : SessionPolicy) (rendered : ℕ) (lines : List (List UInt8)) (k : ℕ)
    (ending : Ending) : Prop where
  ending : ending? policy (rendered + k) lines[k]? = some ending
  earlier : ∀ i < k, ending? policy (rendered + i) lines[i]? = none

/-- What is done for a line that is rendered. -/
def round (styles : Styles) (line : List UInt8) : List Deed :=
  [.write .prompt, .read line,
    .write (.separators (styles.render ((label? line).getD "")).value)]

/-- What a session does in all. -/
def course (styles : Styles) (lines : List (List UInt8)) (k : ℕ) (ending : Ending) : List Deed :=
  (lines.take k).flatMap (round styles) ++ ending.deeds lines[k]?

namespace StopsAt

variable {policy : SessionPolicy} {rendered k : ℕ} {line : List UInt8} {lines : List (List UInt8)}
  {ending : Ending}

lemma zero_iff : StopsAt policy rendered lines 0 ending
    ↔ ending? policy rendered lines.head? = some ending := by
  rw [List.head?_eq_getElem?]
  exact ⟨fun h => h.ending, fun h => ⟨h, fun i hi => absurd hi (Nat.not_lt_zero i)⟩⟩

lemma cons_succ_iff : StopsAt policy rendered (line :: lines) (k + 1) ending
    ↔ ending? policy rendered (some line) = none
      ∧ StopsAt policy (rendered + 1) lines k ending := by
  have hshift : ∀ i, rendered + (i + 1) = rendered + 1 + i := fun i => by omega
  constructor
  · intro h
    refine ⟨h.earlier 0 (Nat.succ_pos k), ?_, fun i hi => ?_⟩
    · have hending := h.ending
      rwa [List.getElem?_cons_succ, hshift] at hending
    · have hearlier := h.earlier (i + 1) (Nat.succ_lt_succ hi)
      rwa [List.getElem?_cons_succ, hshift] at hearlier
  · rintro ⟨hfirst, h⟩
    constructor
    · rw [List.getElem?_cons_succ, hshift]
      exact h.ending
    · intro i hi
      cases i with
      | zero => exact hfirst
      | succ i =>
          rw [List.getElem?_cons_succ, hshift]
          exact h.earlier i (Nat.lt_of_succ_lt_succ hi)

/-- A session ends nowhere behind the end of its input. -/
lemma le_length (h : StopsAt policy rendered lines k ending) : k ≤ lines.length := by
  by_contra hk
  have hnone := h.earlier lines.length (Nat.lt_of_not_le hk)
  obtain ⟨-, line, label, hline, -⟩ := ending?_eq_none_iff.mp hnone
  rw [List.getElem?_eq_none (Nat.le_refl _)] at hline
  exact absurd hline (by simp)

/-- A session stops in one place. -/
lemma unique {k' : ℕ} {ending' : Ending} (h : StopsAt policy rendered lines k ending)
    (h' : StopsAt policy rendered lines k' ending') : k = k' ∧ ending = ending' :=
  first_unique h.ending h.earlier h'.ending h'.earlier

/-- **Round by round.**  What holds of sessions that stop at once, in any of the four ways, and
holds with one line more in front that is rendered, holds of all sessions. -/
@[elab_as_elim]
theorem induction
    {motive : ∀ rendered lines k ending, StopsAt policy rendered lines k ending → Prop}
    {rendered : ℕ} {lines : List (List UInt8)} {k : ℕ} {ending : Ending}
    (h : StopsAt policy rendered lines k ending)
    (countReached : ∀ rendered lines h, policy.reached rendered = true →
      motive rendered lines 0 .countReached h)
    (endOfInput : ∀ rendered h, policy.reached rendered = false →
      motive rendered [] 0 .endOfInput h)
    (notText : ∀ rendered line lines h, policy.reached rendered = false → label? line = none →
      motive rendered (line :: lines) 0 .notText h)
    (quitWord : ∀ rendered line lines label h, policy.reached rendered = false →
      label? line = some label → policy.quitWord = some label →
      motive rendered (line :: lines) 0 .quitWord h)
    (round : ∀ rendered line lines label k ending h more, policy.reached rendered = false →
      label? line = some label → policy.quitWord ≠ some label →
      motive (rendered + 1) lines k ending more →
      motive rendered (line :: lines) (k + 1) ending h) :
    motive rendered lines k ending h := by
  induction lines generalizing rendered k with
  | nil =>
      obtain rfl : k = 0 := Nat.le_zero.mp h.le_length
      rcases ending?_eq_some (zero_iff.mp h) with ⟨hreached, rfl⟩ | ⟨hreached, -, rfl⟩ |
        ⟨-, line, hline, -⟩ | ⟨-, line, label, hline, -⟩
      · exact countReached _ _ h hreached
      · exact endOfInput _ h hreached
      · exact absurd hline (by simp)
      · exact absurd hline (by simp)
  | cons line lines ih =>
      cases k with
      | zero =>
          rcases ending?_eq_some (zero_iff.mp h) with ⟨hreached, rfl⟩ | ⟨-, hline, -⟩ |
            ⟨hreached, line', hline, hlabel, rfl⟩ |
            ⟨hreached, line', label, hline, hlabel, hquit, rfl⟩
          · exact countReached _ _ h hreached
          · exact absurd hline (by simp)
          · obtain rfl : line = line' := Option.some.inj hline
            exact notText _ line lines h hreached hlabel
          · obtain rfl : line = line' := Option.some.inj hline
            exact quitWord _ line lines label h hreached hlabel hquit
      | succ k =>
          obtain ⟨hnone, hmore⟩ := cons_succ_iff.mp h
          obtain ⟨hreached, line', label, hline, hlabel, hquit⟩ := ending?_eq_none_iff.mp hnone
          obtain rfl : line = line' := Option.some.inj hline
          exact round _ line lines label k _ h hmore hreached hlabel hquit (ih hmore)

end StopsAt

/-- **Every session stops.** -/
theorem exists_stopsAt (policy : SessionPolicy) (rendered : ℕ) (lines : List (List UInt8)) :
    ∃ k ending, StopsAt policy rendered lines k ending := by
  induction lines generalizing rendered with
  | nil =>
      have hsome : (ending? policy rendered none).isSome := by
        unfold ending?
        split_ifs <;> rfl
      obtain ⟨ending, hending⟩ := Option.isSome_iff_exists.mp hsome
      exact ⟨0, ending, StopsAt.zero_iff.mpr hending⟩
  | cons line lines ih =>
      cases hfirst : ending? policy rendered (some line) with
      | some ending => exact ⟨0, ending, StopsAt.zero_iff.mpr hfirst⟩
      | none =>
          obtain ⟨k, ending, h⟩ := ih (rendered + 1)
          exact ⟨k + 1, ending, StopsAt.cons_succ_iff.mpr ⟨hfirst, h⟩⟩

/-! ## Sessions follow their course -/

/-- What deeds make of a session that ends behind them. -/
def conclude (ending : Ending) : Half → Report
  | .error report => report
  | .ok progress => ⟨progress, ending.result progress.rendered⟩

lemma ask_value (policy : SessionPolicy) (progress : Progress) :
    (ask policy progress).value
      = if policy.reached progress.rendered then
          .error ⟨progress, Ending.countReached.result progress.rendered⟩
        else Deed.perform progress (.write .prompt) := by
  unfold ask
  split_ifs with hreached
  · rfl
  · cases hwhole : (progress.sink.write (Text.encode prompt)).whole <;>
      simp [Deed.perform, Piece.octets, Piece.settle, Piece.refusal, Sink.writeText, hwhole]

lemma endInput_value (progress : Progress) :
    (endInput progress).value
      = conclude .endOfInput (Deed.perform progress (.write .lineFeed)) := by
  cases hwhole : (progress.sink.write (Text.encode "\n")).whole <;>
    simp [endInput, Deed.perform, Piece.octets, Piece.settle, Piece.refusal, Sink.writeText, hwhole,
      conclude, Progress.finish, Progress.fail, Ending.result]

lemma answer_value_of_notText (styles : Styles) (policy : SessionPolicy) (progress : Progress)
    {line : List UInt8} (h : label? line = none) :
    (answer styles policy progress line).value
      = .error (conclude .notText (Deed.perform progress (.read line))) := by
  rw [label?_eq_none_iff] at h
  simp only [answer, h]
  rfl

lemma answer_value_of_quitWord (styles : Styles) {policy : SessionPolicy} (progress : Progress)
    {line : List UInt8} {label : String} (h : label? line = some label)
    (hquit : policy.quitWord = some label) :
    (answer styles policy progress line).value
      = .error (conclude .quitWord (Deed.perform progress (.read line))) := by
  obtain ⟨text, htext, rfl⟩ := Option.map_eq_some_iff.mp h
  simp only [answer, htext, hquit, if_true]
  rfl

lemma writeSeparators_value (styles : Styles) (progress : Progress) (label : String) :
    (writeSeparators styles progress label).value
      = Deed.perform progress (.write (.separators (styles.render label).value)) := by
  cases hwhole : (progress.sink.write (Sink.blockOctets (styles.render label).value)).whole <;>
    simp [writeSeparators, Deed.perform, Piece.octets, Piece.settle, Piece.refusal,
      Sink.putBlocks_eq_write, hwhole]

lemma answer_value_of_label (styles : Styles) {policy : SessionPolicy} (progress : Progress)
    {line : List UInt8} {label : String} (h : label? line = some label)
    (hquit : policy.quitWord ≠ some label) :
    (answer styles policy progress line).value
      = performAll progress
          [.read line, .write (.separators (styles.render ((label? line).getD "")).value)] := by
  rw [h, Option.getD_some, performAll_cons]
  obtain ⟨text, htext, rfl⟩ := Option.map_eq_some_iff.mp h
  simp only [answer, htext, hquit, if_false, writeSeparators_value]
  exact (performAll_singleton _ _).symm

lemma rounds_value_of_reached (styles : Styles) {policy : SessionPolicy} {progress : Progress}
    (h : policy.reached progress.rendered = true) (lines : List (List UInt8)) :
    (rounds styles policy progress lines).value
      = ⟨progress, Ending.countReached.result progress.rendered⟩ := by
  cases lines <;> simp [rounds, ask_value, h]

lemma rounds_value_nil (styles : Styles) {policy : SessionPolicy} {progress : Progress}
    (h : policy.reached progress.rendered = false) :
    (rounds styles policy progress []).value
      = conclude .endOfInput (performAll progress [.write .prompt, .write .lineFeed]) := by
  simp only [rounds, Logged.value_bind, ask_value, h]
  rw [if_neg (by simp), performAll_cons]
  cases Deed.perform progress (.write .prompt) with
  | error report => rfl
  | ok asked =>
      rw [endInput_value, ← performAll_singleton]
      rfl

lemma rounds_value_cons (styles : Styles) {policy : SessionPolicy} {progress : Progress}
    (h : policy.reached progress.rendered = false) (line : List UInt8)
    (lines : List (List UInt8)) :
    (rounds styles policy progress (line :: lines)).value
      = match Deed.perform progress (.write .prompt) with
        | .error report => report
        | .ok asked =>
          match (answer styles policy asked line).value with
          | .error report => report
          | .ok next => (rounds styles policy next lines).value := by
  simp only [rounds, Logged.value_bind, ask_value, h]
  rw [if_neg (by simp)]
  cases Deed.perform progress (.write .prompt) with
  | error report => rfl
  | ok asked =>
      simp only [Logged.value_bind]
      cases (answer styles policy asked line).value <;> rfl

/-- A line that ends the session is read after the prompt, and that is all. -/
lemma conclude_read {progress : Progress} {line : List UInt8} {ending : Ending} :
    (match Deed.perform progress (.write .prompt) with
      | .error report => report
      | .ok asked => conclude ending (Deed.perform asked (.read line)))
      = conclude ending (performAll progress [.write .prompt, .read line]) := by
  rw [performAll_cons]
  cases Deed.perform progress (.write .prompt) with
  | error report => rfl
  | ok asked => exact congrArg (conclude ending) (performAll_singleton asked (.read line)).symm

lemma course_cons_succ (styles : Styles) (line : List UInt8) (lines : List (List UInt8)) (k : ℕ)
    (ending : Ending) :
    course styles (line :: lines) (k + 1) ending
      = round styles line ++ course styles lines k ending := by
  rw [course, List.take_succ_cons, List.flatMap_cons, List.append_assoc, List.getElem?_cons_succ]
  rfl

/-- **A session follows its course**, whatever its sink takes. -/
theorem rounds_value (styles : Styles) (policy : SessionPolicy) {progress : Progress}
    {lines : List (List UInt8)} {k : ℕ} {ending : Ending}
    (h : StopsAt policy progress.rendered lines k ending) :
    (rounds styles policy progress lines).value
      = conclude ending (performAll progress (course styles lines k ending)) := by
  generalize hrendered : progress.rendered = rendered at h
  induction h using StopsAt.induction generalizing progress with
  | countReached rendered lines h hreached =>
      subst hrendered
      exact rounds_value_of_reached styles hreached lines
  | endOfInput rendered h hreached =>
      subst hrendered
      exact rounds_value_nil styles hreached
  | notText rendered line lines h hreached hlabel =>
      subst hrendered
      simp only [rounds_value_cons styles hreached,
        answer_value_of_notText styles policy _ hlabel]
      exact conclude_read
  | quitWord rendered line lines label h hreached hlabel hquit =>
      subst hrendered
      simp only [rounds_value_cons styles hreached,
        answer_value_of_quitWord styles _ hlabel hquit]
      exact conclude_read
  | round rendered line lines label k ending h more hreached hlabel hquit ih =>
      subst hrendered
      rw [rounds_value_cons styles hreached, course_cons_succ, Session.round, List.cons_append,
        performAll_cons]
      cases hasked : Deed.perform progress (.write .prompt) with
      | error report => rfl
      | ok asked =>
          simp only [answer_value_of_label styles asked hlabel hquit]
          show _ = conclude ending (performAll asked (_ ++ course styles lines k ending))
          rw [performAll_append]
          cases hnext : performAll asked _ with
          | error report => rfl
          | ok next =>
              refine ih ?_
              rw [rendered_of_performAll hnext, rendered_of_perform hasked]
              rfl

end CommentSeparator.Session
