import CommentSeparator.Proofs.Session.Course

/-!
# What deeds leave behind

Deeds for which there is room are all done (`performAll_of_fits`), and what they leave can be read
off them: the octets they write, the turns these fall into, the input they take.

If there is not room for all of them, there is **one write that is refused**
(`performAll_of_lt`).  What is before it is done as if there were no limit, the sink takes the
beginning of it, and nothing is done behind it.
-/

namespace CommentSeparator.Session

/-! ## Without a limit -/

/-- The octets that deeds write. -/
def written (deeds : List Deed) : List UInt8 :=
  deeds.flatMap Deed.octets

/-- The input that deeds take. -/
def taken (deeds : List Deed) : List UInt8 :=
  deeds.flatMap Deed.taken

/-- The turns that deeds write: a prompt ends one, and what is written behind it begins the next. -/
def turnsOf : List Deed → List (List UInt8)
  | [] => [[]]
  | .read _ :: deeds => turnsOf deeds
  | .write .prompt :: deeds => Text.encode prompt :: turnsOf deeds
  | .write piece :: deeds => (turnsOf deeds).modifyHead (piece.octets ++ ·)

/-- Does a deed for which there is room. -/
def Deed.apply (progress : Progress) : Deed → Progress
  | read line => { progress with consumed := progress.consumed + line.length }
  | write piece => piece.settle { progress with sink := progress.sink.extended piece.octets }

/-- How far a session has come after some deeds for which there is room. -/
def Progress.after (progress : Progress) (deeds : List Deed) : Progress :=
  deeds.foldl Deed.apply progress

@[simp]
lemma written_cons (deed : Deed) (deeds : List Deed) :
    written (deed :: deeds) = deed.octets ++ written deeds := rfl

lemma written_append (deeds more : List Deed) :
    written (deeds ++ more) = written deeds ++ written more :=
  List.flatMap_append

@[simp]
lemma taken_cons (deed : Deed) (deeds : List Deed) :
    taken (deed :: deeds) = deed.taken ++ taken deeds := rfl

lemma Piece.sink_settle_room (piece : Piece) (progress : Progress) :
    (piece.settle progress).sink.room = progress.sink.room := by
  cases piece <;> rfl

lemma Piece.sink_settle_octets (piece : Piece) (progress : Progress) :
    (piece.settle progress).sink.octets = progress.sink.octets := by
  cases piece with
  | prompt => exact Sink.octets_flush progress.sink
  | _ => rfl

namespace Deed

variable {progress : Progress}

lemma perform_of_fits {deed : Deed} (h : progress.sink.Fits deed.octets.length) :
    deed.perform progress = .ok (deed.apply progress) := by
  cases deed with
  | read line => rfl
  | write piece =>
      have hwrite := Sink.write_of_fits (show progress.sink.Fits piece.octets.length from h)
      simp only [perform, hwrite, if_true, apply]

lemma room_apply (deed : Deed) :
    (deed.apply progress).sink.room = progress.sink.room.map (· - deed.octets.length) := by
  cases deed with
  | read line => cases hroom : progress.sink.room <;> simp [apply, octets, hroom]
  | write piece => exact piece.sink_settle_room _

/-- What fits behind a deed fits together with it. -/
lemma fits_apply {deed : Deed} {count : ℕ} (h : progress.sink.Fits deed.octets.length) :
    (deed.apply progress).sink.Fits count
      ↔ progress.sink.Fits (deed.octets.length + count) := by
  cases deed with
  | read line => simp [apply, octets]
  | write piece =>
      rw [← Sink.fits_extended h]
      simp only [Sink.Fits, apply, Piece.sink_settle_room]
      rfl

lemma consumed_apply (deed : Deed) :
    (deed.apply progress).consumed = progress.consumed + deed.taken.length := by
  cases deed with
  | read line => rfl
  | write piece => cases piece <;> rfl

lemma rendered_apply (deed : Deed) :
    (deed.apply progress).rendered = progress.rendered + if deed.renders then 1 else 0 := by
  cases deed with
  | read line => rfl
  | write piece => cases piece <;> rfl

lemma octets_apply (deed : Deed) :
    (deed.apply progress).sink.octets = progress.sink.octets ++ deed.octets := by
  cases deed with
  | read line => exact (List.append_nil _).symm
  | write piece => rw [apply, Piece.sink_settle_octets, Sink.octets_extended, octets]

end Deed

namespace Progress

variable (progress : Progress)

lemma after_cons (deed : Deed) (deeds : List Deed) :
    progress.after (deed :: deeds) = (deed.apply progress).after deeds := rfl

lemma consumed_after (deeds : List Deed) :
    (progress.after deeds).consumed = progress.consumed + (taken deeds).length := by
  induction deeds generalizing progress with
  | nil => rfl
  | cons deed deeds ih =>
      rw [after_cons, ih, Deed.consumed_apply, taken_cons, List.length_append, Nat.add_assoc]

lemma rendered_after (deeds : List Deed) :
    (progress.after deeds).rendered = progress.rendered + deeds.countP Deed.renders := by
  induction deeds generalizing progress with
  | nil => rfl
  | cons deed deeds ih =>
      rw [after_cons, ih, Deed.rendered_apply, List.countP_cons, Nat.add_right_comm, Nat.add_assoc]

lemma octets_after (deeds : List Deed) :
    (progress.after deeds).sink.octets = progress.sink.octets ++ written deeds := by
  induction deeds generalizing progress with
  | nil => exact (List.append_nil _).symm
  | cons deed deeds ih =>
      rw [after_cons, ih, Deed.octets_apply, written_cons, List.append_assoc]

lemma modifyHead_nil_append (turns : List (List UInt8)) : turns.modifyHead ([] ++ ·) = turns := by
  cases turns <;> rfl

/-- The turns after some deeds: the one that was open goes on. -/
lemma turns_after (deeds : List Deed) :
    (progress.after deeds).sink.turns
      = progress.sink.closed.reverse
        ++ (turnsOf deeds).modifyHead (progress.sink.current ++ ·) := by
  have hmore : ∀ (current octets : List UInt8) (turns : List (List UInt8)),
      turns.modifyHead (current ++ octets ++ ·)
        = (turns.modifyHead (octets ++ ·)).modifyHead (current ++ ·) := by
    intro current octets turns
    cases turns with
    | nil => rfl
    | cons turn turns => exact congrArg (· :: turns) (List.append_assoc current octets turn)
  induction deeds generalizing progress with
  | nil => simp [after, turnsOf, Sink.turns]
  | cons deed deeds ih =>
      rw [after_cons, ih]
      cases deed with
      | read line => rfl
      | write piece =>
          cases piece with
          | prompt =>
              show (_ :: progress.sink.closed).reverse ++ (turnsOf deeds).modifyHead ([] ++ ·) = _
              rw [modifyHead_nil_append, List.reverse_cons, List.append_assoc]
              rfl
          | _ => exact congrArg (progress.sink.closed.reverse ++ ·) (hmore _ _ _)

/-- Two sinks that have taken nothing have the same turns later. -/
lemma turns_after_of_empty {progress : Progress} (hclosed : progress.sink.closed = [])
    (hcurrent : progress.sink.current = []) (deeds : List Deed) :
    (progress.after deeds).sink.turns = turnsOf deeds := by
  rw [turns_after, hclosed, hcurrent]
  exact modifyHead_nil_append _

end Progress

/-! ## With a limit -/

/-- **Deeds for which there is room are all done.** -/
theorem performAll_of_fits {progress : Progress} {deeds : List Deed}
    (h : progress.sink.Fits (written deeds).length) :
    performAll progress deeds = .ok (progress.after deeds) := by
  induction deeds generalizing progress with
  | nil => rfl
  | cons deed deeds ih =>
      rw [written_cons, List.length_append] at h
      have hdeed : progress.sink.Fits deed.octets.length := fun room hroom =>
        Nat.le_of_add_right_le (h room hroom)
      rw [performAll_cons, Deed.perform_of_fits hdeed]
      exact ih ((Deed.fits_apply hdeed).mpr h)

/-- A session that a piece breaks off. -/
def refused (progress : Progress) (piece : Piece) (room : ℕ) : Report :=
  { progress with sink := progress.sink.filled piece.octets room }.fail piece.refusal

/-- **Where there is not room for all deeds, one write is refused.**  Before it there is room, and
the sink is full behind it. -/
theorem performAll_of_lt {progress : Progress} {room : ℕ} (hroom : progress.sink.room = some room)
    {deeds : List Deed} (h : room < (written deeds).length) :
    ∃ before piece later, deeds = before ++ .write piece :: later
      ∧ (written before).length ≤ room ∧ room < (written before ++ piece.octets).length
      ∧ performAll progress deeds
        = .error (refused (progress.after before) piece (room - (written before).length)) := by
  induction deeds generalizing progress room with
  | nil => exact absurd h (Nat.not_lt_zero room)
  | cons deed deeds ih =>
      rcases progress.sink.fits_or_lt deed.octets.length with hfits | ⟨room', hroom', hlt⟩
      · have hle := hfits room hroom
        have hleft : (deed.apply progress).sink.room = some (room - deed.octets.length) := by
          rw [Deed.room_apply, hroom]
          rfl
        rw [written_cons, List.length_append] at h
        obtain ⟨before, piece, later, rfl, hbefore, hpiece, hperform⟩ :=
          ih hleft (Nat.sub_lt_left_of_lt_add hle h)
        refine ⟨deed :: before, piece, later, rfl, ?_, ?_, ?_⟩
        · rw [written_cons, List.length_append]
          omega
        · rw [written_cons, List.append_assoc, List.length_append]
          omega
        · rw [performAll_cons, Deed.perform_of_fits hfits, Progress.after_cons, written_cons,
            List.length_append, Nat.sub_add_eq]
          exact hperform
      · obtain rfl := Option.some.inj (hroom.symm.trans hroom')
        cases deed with
        | read line => exact absurd hlt (Nat.not_lt_zero room)
        | write piece =>
            refine ⟨[], piece, deeds, rfl, Nat.zero_le room, hlt, ?_⟩
            have hwrite := Sink.write_of_lt hroom (show room < piece.octets.length from hlt)
            rw [performAll_cons]
            simp only [Deed.perform, hwrite]
            rfl

end CommentSeparator.Session
