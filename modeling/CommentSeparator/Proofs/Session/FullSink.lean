import CommentSeparator.Proofs.Session.Reference

/-!
# Sessions whose sink is full

A sink with a limit does not change the course of a session, it only cuts it off.  The octets it
has taken are the beginning of what a session without a limit writes, and the session is broken off
in the piece that the limit lies in (`performAll_of_lt`).  **The piece decides the error**; what
stands before it has been done, and nothing behind it.
-/

namespace CommentSeparator.Session

/-! ## Flushes -/

/-- Every prompt before the end of some deeds ends a turn, and nothing else does. -/
lemma length_turnsOf (deeds : List Deed) :
    (turnsOf deeds).length = deeds.count (.write .prompt) + 1 := by
  induction deeds with
  | nil => rfl
  | cons deed deeds ih =>
      cases deed with
      | read line => rw [turnsOf, ih, List.count_cons_of_ne (by simp)]
      | write piece =>
          cases piece with
          | prompt => rw [turnsOf, List.length_cons, ih, List.count_cons_self]
          | separators lines =>
              rw [turnsOf, List.length_modifyHead, ih, List.count_cons_of_ne (by simp)]
              simp
          | lineFeed =>
              rw [turnsOf, List.length_modifyHead, ih, List.count_cons_of_ne (by simp)]
              simp

/-- The turns that are closed are those that a prompt has ended. -/
lemma length_closed_after {progress : Progress} (hclosed : progress.sink.closed = [])
    (hcurrent : progress.sink.current = []) (deeds : List Deed) :
    (progress.after deeds).sink.closed.length = deeds.count (.write .prompt) := by
  have hturns := congrArg List.length (Progress.turns_after_of_empty hclosed hcurrent deeds)
  rw [length_turnsOf, Sink.turns, List.length_reverse, List.length_cons] at hturns
  exact Nat.succ.inj hturns

/-- Where the prompts among some deeds end, in octets that are counted from a start. -/
def promptEnds (start : ℕ) : List Deed → List ℕ
  | [] => []
  | deed :: deeds =>
    let stop := start + deed.octets.length
    if deed = .write .prompt then stop :: promptEnds stop deeds else promptEnds stop deeds

lemma length_promptEnds (start : ℕ) (deeds : List Deed) :
    (promptEnds start deeds).length = deeds.count (.write .prompt) := by
  induction deeds generalizing start with
  | nil => rfl
  | cons deed deeds ih =>
      rw [promptEnds]
      split_ifs with hdeed
      · rw [List.length_cons, ih, hdeed, List.count_cons_self]
      · rw [ih, List.count_cons_of_ne hdeed]

lemma promptEnds_append (start : ℕ) (deeds more : List Deed) :
    promptEnds start (deeds ++ more)
      = promptEnds start deeds ++ promptEnds (start + (written deeds).length) more := by
  induction deeds generalizing start with
  | nil => rfl
  | cons deed deeds ih =>
      simp only [List.cons_append, promptEnds, written_cons, List.length_append, ← Nat.add_assoc,
        ih]
      split_ifs <;> rfl

lemma le_of_mem_promptEnds {start stop : ℕ} {deed : Deed} {deeds : List Deed}
    (h : stop ∈ promptEnds start (deed :: deeds)) : start + deed.octets.length ≤ stop := by
  induction deeds generalizing start deed with
  | nil =>
      simp only [promptEnds] at h
      split_ifs at h <;> simp_all
  | cons next deeds ih =>
      rw [promptEnds] at h
      have hlater : stop ∈ promptEnds (start + deed.octets.length) (next :: deeds) →
          start + deed.octets.length ≤ stop := fun hmem =>
        Nat.le_of_add_right_le (ih hmem)
      split_ifs at h
      · rcases List.mem_cons.mp h with rfl | hmem
        · exact Nat.le_refl _
        · exact hlater hmem
      · exact hlater h

lemma mem_promptEnds_le {start stop : ℕ} {deeds : List Deed} (h : stop ∈ promptEnds start deeds) :
    stop ≤ start + (written deeds).length := by
  induction deeds generalizing start with
  | nil => simp [promptEnds] at h
  | cons deed deeds ih =>
      rw [written_cons, List.length_append]
      rw [promptEnds] at h
      split_ifs at h
      · rcases List.mem_cons.mp h with rfl | hmem
        · omega
        · have := ih hmem
          omega
      · have := ih h
        omega

/-- The prompts that end within the room are those before the piece that the limit lies in. -/
lemma countP_promptEnds {before later : List Deed} {piece : Piece} {room : ℕ}
    (hbefore : (written before).length ≤ room)
    (hpiece : room < (written before ++ piece.octets).length) :
    (promptEnds 0 (before ++ .write piece :: later)).countP (· ≤ room)
      = before.count (.write .prompt) := by
  have hdone : (promptEnds 0 before).countP (· ≤ room) = (promptEnds 0 before).length := by
    rw [List.countP_eq_length]
    intro stop hstop
    have := mem_promptEnds_le hstop
    simp only [decide_eq_true_eq]
    omega
  have hrest : (promptEnds (0 + (written before).length) (.write piece :: later)).countP (· ≤ room)
      = 0 := by
    rw [List.countP_eq_zero]
    intro stop hstop
    have hle : _ + piece.octets.length ≤ stop := le_of_mem_promptEnds hstop
    rw [List.length_append] at hpiece
    simp only [decide_eq_true_eq]
    omega
  rw [promptEnds_append, List.countP_append, hdone, hrest, length_promptEnds]
  rfl

/-! ## Whole sessions and broken ones -/

/-- The octets of a whole session are those of its course. -/
lemma octets_unlimited (styles : Styles) {policy : SessionPolicy} {input : List UInt8} {k : ℕ}
    {ending : Ending} (h : StopsAt policy 0 (inputLines input) k ending) :
    (run styles policy {} input).value.progress.sink.octets
      = written (course styles (inputLines input) k ending) := by
  rw [run_unlimited styles h]
  exact Progress.octets_after _ _

lemma fits_limited {room count : ℕ} (h : count ≤ room) :
    Sink.Fits { room := some room } count := fun _ hroom => Option.some.inj hroom ▸ h

/-- A sink with less room breaks the session off. -/
lemma run_of_lt (styles : Styles) {policy : SessionPolicy} {input : List UInt8} {k room : ℕ}
    {ending : Ending} (h : StopsAt policy 0 (inputLines input) k ending)
    (hroom : room < (written (course styles (inputLines input) k ending)).length) :
    ∃ before piece later,
      course styles (inputLines input) k ending = before ++ .write piece :: later
        ∧ (written before).length ≤ room ∧ room < (written before ++ piece.octets).length
        ∧ (run styles policy { room := some room } input).value
          = refused (Progress.after { sink := { room := some room } } before) piece
            (room - (written before).length) := by
  have hsink : ({ sink := { room := some room } } : Progress).sink.room = some room := rfl
  obtain ⟨before, piece, later, hcourse, hbefore, hpiece, hperform⟩ := performAll_of_lt hsink hroom
  refine ⟨before, piece, later, hcourse, hbefore, hpiece, ?_⟩
  rw [run, rounds_value styles policy h, hperform]
  rfl

/-- **A sink takes the beginning** of what a session writes, as far as it has room. -/
lemma octets_limited (styles : Styles) {policy : SessionPolicy} {input : List UInt8} {k : ℕ}
    {ending : Ending} (h : StopsAt policy 0 (inputLines input) k ending) (room : ℕ) :
    (run styles policy { room := some room } input).value.progress.sink.octets
      = (written (course styles (inputLines input) k ending)).take room := by
  rcases Nat.lt_or_ge room (written (course styles (inputLines input) k ending)).length with
    hlt | hle
  · obtain ⟨before, piece, later, hcourse, hbefore, hpiece, hrun⟩ := run_of_lt styles h hlt
    have hrest : room - (written before).length ≤ piece.octets.length := by
      rw [List.length_append] at hpiece
      omega
    have hdone := Progress.octets_after { sink := { room := some room } } before
    rw [hrun, hcourse, written_append, written_cons, List.take_append,
      List.take_of_length_le hbefore, Deed.octets, List.take_append_of_le_length hrest]
    exact (Sink.octets_filled _ _ _).trans (congrArg (· ++ _) hdone)
  · rw [run_of_fits styles h (fits_limited hle), List.take_of_length_le hle]
    exact Progress.octets_after _ _

/-- **What a limited sink makes of a session.**  It takes the beginning of what the session writes.
If that is all, nothing else is different.  If not, the session is broken off in the piece that the
first octet without room lies in: the message says what kind of piece that is, the flushes are as
many as prompts end within the room, and the input that was read is what had been read before that
piece.  Blocks by
themselves are cut off in the same way. -/
theorem run_limited (styles : Styles) (policy : SessionPolicy) (input : List UInt8) (room : ℕ) :
    let whole := (run styles policy {} input).value
    let cut := (run styles policy { room := some room } input).value
    cut.progress.sink.octets = whole.progress.sink.octets.take room
      ∧ (whole.progress.sink.octets.length ≤ room →
          cut.result = whole.result ∧ cut.progress.sink.turns = whole.progress.sink.turns
            ∧ cut.progress.rendered = whole.progress.rendered
            ∧ cut.progress.consumed = whole.progress.consumed)
      ∧ (room < whole.progress.sink.octets.length →
          ∃ k ending before piece later, StopsAt policy 0 (inputLines input) k ending
            ∧ course styles (inputLines input) k ending = before ++ .write piece :: later
            ∧ whole.progress.sink.octets = written before ++ piece.octets ++ written later
            ∧ (written before).length ≤ room ∧ room < (written before ++ piece.octets).length
            ∧ cut.result = .error piece.refusal
            ∧ (∀ sinkFull, piece.refusal.message sinkFull = piece.context ++ ": " ++ sinkFull)
            ∧ cut.progress.sink.closed.length
              = (promptEnds 0 (course styles (inputLines input) k ending)).countP (· ≤ room)
            ∧ cut.progress.consumed = (taken before).length)
      ∧ ∀ lines : List String,
          (Sink.putBlocks { room := some room } lines).sink.octets
              = (Sink.putBlocks {} lines).sink.octets.take room
            ∧ ((Sink.putBlocks { room := some room } lines).whole = true
              ↔ (Sink.putBlocks {} lines).sink.octets.length ≤ room) := by
  intro whole cut
  obtain ⟨k, ending, h⟩ := exists_stopsAt policy 0 (inputLines input)
  have hoctets : whole.progress.sink.octets = written (course styles (inputLines input) k ending) :=
    octets_unlimited styles h
  refine ⟨?_, ?_, ?_, ?_⟩
  · rw [hoctets]
    exact octets_limited styles h room
  · intro hle
    rw [hoctets] at hle
    have hwhole : whole = _ := run_unlimited styles h
    have hcut : cut = _ := run_of_fits styles h (fits_limited hle)
    rw [hwhole, hcut]
    refine ⟨rfl, ?_, ?_, ?_⟩
    · simp only [Progress.turns_after]
    · simp only [Progress.rendered_after]
    · simp only [Progress.consumed_after]
  · intro hlt
    rw [hoctets] at hlt
    obtain ⟨before, piece, later, hcourse, hbefore, hpiece, hrun⟩ := run_of_lt styles h hlt
    have hcut : cut = _ := hrun
    refine ⟨k, ending, before, piece, later, h, hcourse, ?_, hbefore, hpiece, ?_,
      piece.message_refusal, ?_, ?_⟩
    · rw [hoctets, hcourse, written_append, written_cons, List.append_assoc]
      rfl
    · rw [hcut]
      rfl
    · rw [hcut, hcourse, countP_promptEnds hbefore hpiece]
      exact length_closed_after rfl rfl before
    · rw [hcut]
      exact (Progress.consumed_after _ before).trans (Nat.zero_add _)
  · intro lines
    have hall : (Sink.putBlocks {} lines).sink.octets = Sink.blockOctets lines := by
      have hfits : Sink.Fits {} (Sink.blockOctets lines).length := Sink.fits_of_room_eq_none rfl _
      rw [Sink.putBlocks_eq_write, Sink.write_of_fits hfits, Sink.octets_extended]
      rfl
    rw [hall, Sink.putBlocks_eq_write]
    exact Sink.write_limited rfl (Sink.blockOctets lines)

/-- Without input there are twenty octets: the prompt and a line feed.  One less is too few. -/
theorem run_limited_of_no_input :
    (run {} {} { room := some 20 } []).value.result = .ok ⟨0, .endOfInput⟩
      ∧ ∃ piece : Piece,
        (run {} {} { room := some 19 } []).value.result = .error piece.refusal := by
  constructor
  · exact ((run_limited {} {} [] 20).2.1 (by decide)).1
  · obtain ⟨-, -, -, piece, -, -, -, -, -, -, hresult, -⟩ :=
      (run_limited {} {} [] 19).2.2.1 (by decide)
    exact ⟨piece, hresult⟩

end CommentSeparator.Session
