import CommentSeparator.Arithmetic
import CommentSeparator.Log.Event

/-!
# Fill

The room between the delimiters of a line is filled with dashes.  Room is a signed count of
characters: a width is an unsigned 64-bit number that is read in two's complement, and what the
delimiters and the label take is subtracted, one after the other.  A count below zero gives no
dashes and is reported.
-/

namespace CommentSeparator

section

variable {m : Type → Type} [Monad m] (arith : Arithmetic m)

/-- The room that a width leaves beside two delimiters and some reserved characters. -/
def Arithmetic.room (width : UInt64) (opening closing : String) (reserved : Int) : m Int := do
  let left ← arith.settle (arith.ofWidth width - opening.length)
  let left ← arith.settle (left - closing.length)
  arith.settle (left - reserved)

/-- How many characters a label takes: its own and a space on either side. -/
def Arithmetic.labelRoom (label : String) : m Int :=
  arith.settle (label.length + 2)

end

/-- The room that a width leaves, counted with numbers that go round. -/
def freeRoom (width : UInt64) (opening closing : String) (reserved : Int) : Int :=
  Id.run (Arithmetic.wrapping.room width opening closing reserved)

theorem Arithmetic.wrapping_room (width : UInt64) (opening closing : String) (reserved : Int) :
    wrapping.room width opening closing reserved
      = pure (freeRoom width opening closing reserved) :=
  rfl

/-- The parts are taken from the width, and it is enough to go round once. -/
theorem freeRoom_eq (width : UInt64) (opening closing : String) (reserved : Int) :
    freeRoom width opening closing reserved
      = signed64 (signedWidth width - opening.length - closing.length - reserved) := by
  have hsteps : freeRoom width opening closing reserved
      = signed64 (signed64 (signed64 (signedWidth width - opening.length) - closing.length)
        - reserved) := rfl
  rw [hsteps]
  simp only [signed64_eq]
  omega

/-- So many dashes. -/
def dashRun (count : Nat) : String :=
  String.ofList (List.replicate count '-')

/-- Fills the counted room with dashes; no room gives none, and missing room is reported. -/
def fillRoom (count : Int) : Logged String := do
  if count < 0 then
    Logged.report (.fillClamped count)
  pure (dashRun count.toNat)

@[simp]
theorem fillRoom_value (count : Int) : (fillRoom count).value = dashRun count.toNat := by
  unfold fillRoom
  split <;> rfl

@[simp]
theorem fillRoom_events (count : Int) :
    (fillRoom count).events = if count < 0 then [.fillClamped count] else [] := by
  unfold fillRoom
  split <;> rfl

end CommentSeparator
