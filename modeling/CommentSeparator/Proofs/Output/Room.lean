import CommentSeparator.Sink
import Mathlib.Tactic.Common

/-!
# Sinks and their room

A write either fits or it does not.  If it fits, the sink takes all of it (`Sink.extended`), and has
so much less room.  If not, the sink takes what it has room for and is full (`Sink.filled`).

**Cutting a write in two changes nothing** (`write_append`), so blocks that are written one by one
are one write of all their octets (`putBlocks_eq_write`).  What holds of writes holds of blocks.
-/

namespace CommentSeparator.Sink

/-- Is there room for so many octets? -/
def Fits (sink : Sink) (count : ℕ) : Prop :=
  ∀ room, sink.room = some room → count ≤ room

/-- The sink with octets taken whole. -/
def extended (sink : Sink) (octets : List UInt8) : Sink :=
  { sink with
    room := sink.room.map (· - octets.length)
    current := sink.current ++ octets }

/-- The sink with octets taken as far as there was room. -/
def filled (sink : Sink) (octets : List UInt8) (room : ℕ) : Sink :=
  { sink with
    room := some 0
    current := sink.current ++ octets.take room }

/-! ## Writes -/

lemma write_of_fits {sink : Sink} {octets : List UInt8} (h : sink.Fits octets.length) :
    sink.write octets = ⟨sink.extended octets, true⟩ := by
  obtain ⟨room, closed, current⟩ := sink
  cases room with
  | none => rfl
  | some room =>
      have hle : octets.length ≤ room := h room rfl
      simp [write, extended, hle, List.take_of_length_le]

lemma write_of_lt {sink : Sink} {octets : List UInt8} {room : ℕ} (hroom : sink.room = some room)
    (h : room < octets.length) : sink.write octets = ⟨sink.filled octets room, false⟩ := by
  simp only [write, hroom, filled]
  rw [Nat.sub_eq_zero_of_le (Nat.le_of_lt h), decide_eq_false (Nat.not_le_of_lt h)]

/-- A write fits, or the sink has a limit that is too small for it. -/
lemma fits_or_lt (sink : Sink) (count : ℕ) :
    sink.Fits count ∨ ∃ room, sink.room = some room ∧ room < count := by
  cases hroom : sink.room with
  | none => exact Or.inl fun room h => by simp [hroom] at h
  | some room =>
      by_cases h : count ≤ room
      · exact Or.inl fun room' h' => by
          obtain rfl := Option.some.inj (hroom.symm.trans h')
          exact h
      · exact Or.inr ⟨room, rfl, Nat.lt_of_not_le h⟩

lemma fits_of_room_eq_none {sink : Sink} (h : sink.room = none) (count : ℕ) : sink.Fits count :=
  fun room hroom => by simp [h] at hroom

@[simp]
lemma extended_nil (sink : Sink) : sink.extended [] = sink := by
  obtain ⟨room, closed, current⟩ := sink
  cases room <;> simp [extended]

lemma extended_append (sink : Sink) (a b : List UInt8) :
    sink.extended (a ++ b) = (sink.extended a).extended b := by
  obtain ⟨room, closed, current⟩ := sink
  cases room with
  | none => simp [extended]
  | some room => simp [extended, Nat.sub_add_eq]

/-- What fits after a whole write fitted together with it. -/
lemma fits_extended {sink : Sink} {octets : List UInt8} {count : ℕ} (h : sink.Fits octets.length) :
    (sink.extended octets).Fits count ↔ sink.Fits (octets.length + count) := by
  obtain ⟨room, closed, current⟩ := sink
  cases room with
  | none => simp [Fits, extended]
  | some room =>
      have hle : octets.length ≤ room := h room rfl
      simp only [Fits, extended, Option.map_some, Option.some.injEq, forall_eq']
      omega

/-- **A write in two parts** is the same as one write: the second part is not begun if the first was
refused, and the sink is full then. -/
lemma write_append (sink : Sink) (a b : List UInt8) :
    sink.write (a ++ b)
      = if (sink.write a).whole then (sink.write a).sink.write b else sink.write a := by
  rcases sink.fits_or_lt a.length with ha | ⟨room, hroom, ha⟩
  · rw [write_of_fits ha, if_pos rfl]
    rcases (sink.extended a).fits_or_lt b.length with hb | ⟨left, hleft, hb⟩
    · rw [write_of_fits hb, ← extended_append, write_of_fits]
      rw [List.length_append]
      exact (fits_extended ha).mp hb
    · rw [write_of_lt hleft hb]
      obtain ⟨room, hroom, rfl⟩ := Option.map_eq_some_iff.mp hleft
      have hle := ha room hroom
      have hlt : room < (a ++ b).length := by
        rw [List.length_append]
        omega
      rw [write_of_lt hroom hlt]
      simp [filled, extended, List.take_append, List.take_of_length_le hle]
  · have hlt : room < (a ++ b).length := by
      rw [List.length_append]
      omega
    rw [write_of_lt hroom ha, if_neg (by simp), write_of_lt hroom hlt]
    simp [filled, List.take_append_of_le_length (Nat.le_of_lt ha)]

/-! ## Blocks -/

/-- The octets of lines as blocks. -/
def blockOctets (lines : List String) : List UInt8 :=
  lines.flatMap fun line => Text.encode (block line)

/-- **Blocks are one write**, of the octets of all of them. -/
theorem putBlocks_eq_write (sink : Sink) (lines : List String) :
    sink.putBlocks lines = sink.write (blockOctets lines) := by
  induction lines generalizing sink with
  | nil =>
      rw [putBlocks, blockOctets, List.flatMap_nil, write_of_fits (by simp [Fits]), extended_nil]
  | cons line lines ih =>
      rw [putBlocks, blockOctets, List.flatMap_cons, write_append, ← blockOctets]
      simp only [writeText, ih]

/-! ## What has been taken -/

@[simp]
lemma octets_extended (sink : Sink) (octets : List UInt8) :
    (sink.extended octets).octets = sink.octets ++ octets := by
  simp [Sink.octets, turns, extended]

@[simp]
lemma octets_filled (sink : Sink) (octets : List UInt8) (room : ℕ) :
    (sink.filled octets room).octets = sink.octets ++ octets.take room := by
  simp [Sink.octets, turns, filled]

@[simp]
lemma octets_flush (sink : Sink) : sink.flush.octets = sink.octets := by
  simp [Sink.octets, turns, flush]

/-- **A limited sink takes the beginning of a write**, as long as there is room, and the write is
whole iff all of it is taken. -/
theorem write_limited {sink : Sink} {room : ℕ} (hroom : sink.room = some room)
    (octets : List UInt8) :
    (sink.write octets).sink.octets = sink.octets ++ octets.take room
      ∧ ((sink.write octets).whole = true ↔ octets.length ≤ room) := by
  rcases sink.fits_or_lt octets.length with h | ⟨room', hroom', h⟩
  · have hle := h room hroom
    rw [write_of_fits h]
    exact ⟨by rw [octets_extended, List.take_of_length_le hle], by simp [hle]⟩
  · obtain rfl := Option.some.inj (hroom.symm.trans hroom')
    rw [write_of_lt hroom h]
    exact ⟨octets_filled _ _ _, by simp [h]⟩

end CommentSeparator.Sink
