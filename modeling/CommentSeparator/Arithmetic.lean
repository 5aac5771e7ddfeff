/-!
# Counting with 64 bits

Room is counted with 64 bits and a sign, and a sum or a difference can leave their range.  What
becomes of it then depends on how the program was built: the number goes round, or the program
stops.  So whatever counts is written once, for any `Arithmetic`.

* `signed64` — what 64 bits with a sign hold of an integer.
* `Arithmetic.wrapping` — numbers go round.  There is always a result, and it is the one that is
  meant where nothing else is said.
* `Arithmetic.checked` — a sum or a difference out of range has no result.
* `Arithmetic.exact` — integers without bounds.

The lengths of texts are in range as they are, because no text fills half of the memory.
-/

namespace CommentSeparator

/-- The integers that 64 bits with a sign can hold. -/
def IsSigned64 (n : Int) : Prop :=
  -0x8000000000000000 ≤ n ∧ n < 0x8000000000000000

instance (n : Int) : Decidable (IsSigned64 n) :=
  inferInstanceAs (Decidable (_ ∧ _))

/-- What 64 bits with a sign hold of an integer. -/
def signed64 (n : Int) : Int :=
  (Int64.ofInt n).toInt

/-- An integer goes round at the ends of the range. -/
theorem signed64_eq (n : Int) :
    signed64 n = (n + 0x8000000000000000) % 0x10000000000000000 - 0x8000000000000000 := by
  rw [signed64, Int64.toInt_ofInt, Int.bmod_def, Int64.size]
  simp only [Int.cast_ofNat_Int]
  split <;> omega

/-- An integer in range is not changed. -/
theorem signed64_of_isSigned64 {n : Int} (h : IsSigned64 n) : signed64 n = n := by
  unfold IsSigned64 at h
  rw [signed64_eq]
  omega

theorem isSigned64_signed64 (n : Int) : IsSigned64 (signed64 n) := by
  unfold IsSigned64
  rw [signed64_eq]
  omega

/-- Going round once is enough. -/
@[simp]
theorem signed64_signed64_sub (a b : Int) : signed64 (signed64 a - b) = signed64 (a - b) := by
  simp only [signed64_eq]
  omega

@[simp]
theorem signed64_sub_signed64 (a b : Int) : signed64 (a - signed64 b) = signed64 (a - b) := by
  simp only [signed64_eq]
  omega

/-- A width as a signed count: the same 64 bits in two's complement, so widths of 2^63 and more
are negative. -/
def signedWidth (width : UInt64) : Int :=
  width.toInt64.toInt

theorem signedWidth_eq (width : UInt64) : signedWidth width = signed64 width.toNat := by
  rw [signed64, Int64.toInt_ofInt]
  exact BitVec.toInt_eq_toNat_bmod width.toBitVec

theorem isSigned64_signedWidth (width : UInt64) : IsSigned64 (signedWidth width) := by
  rw [signedWidth_eq]
  exact isSigned64_signed64 _

/-- A width in range is what it is read as. -/
theorem signedWidth_of_isSigned64 {width : UInt64} (h : IsSigned64 width.toNat) :
    signedWidth width = width.toNat := by
  rw [signedWidth_eq, signed64_of_isSigned64 h]

/-- A way to count: what a width is read as, and what a sum or a difference comes to.  In the range
of 64 bits all ways agree. -/
structure Arithmetic (m : Type → Type) [Monad m] where
  ofWidth : UInt64 → Int
  settle : Int → m Int
  ofWidth_of_isSigned64 : ∀ {width : UInt64}, IsSigned64 width.toNat → ofWidth width = width.toNat
  settle_of_isSigned64 : ∀ {n : Int}, IsSigned64 n → settle n = pure n

namespace Arithmetic

/-- Numbers go round. -/
def wrapping : Arithmetic Id where
  ofWidth := signedWidth
  settle n := signed64 n
  ofWidth_of_isSigned64 := signedWidth_of_isSigned64
  settle_of_isSigned64 := signed64_of_isSigned64

theorem wrapping_settle (n : Int) : wrapping.settle n = pure (signed64 n) :=
  rfl

/-- A sum or a difference out of range has no result. -/
def checked : Arithmetic Option where
  ofWidth := signedWidth
  settle n := if IsSigned64 n then some n else none
  ofWidth_of_isSigned64 := signedWidth_of_isSigned64
  settle_of_isSigned64 h := if_pos h

/-- Integers without bounds. -/
def exact : Arithmetic Id where
  ofWidth width := width.toNat
  settle n := n
  ofWidth_of_isSigned64 _ := rfl
  settle_of_isSigned64 _ := rfl

end Arithmetic

end CommentSeparator
