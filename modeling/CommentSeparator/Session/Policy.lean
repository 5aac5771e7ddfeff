/-!
# When a session ends

A session asks for labels until the input ends, a quit word is read, or the cap is reached.
-/

namespace CommentSeparator

/-- What ends a session besides the end of its input. -/
structure SessionPolicy where
  /-- The label that ends the session without being rendered. -/
  quitWord : Option String := none
  /-- How many labels are rendered at most. -/
  cap : Option Nat := none
  deriving DecidableEq, Repr

/-- Why a session ended. -/
inductive Stop where
  | endOfInput
  | quitWord
  | countReached
  deriving DecidableEq, Repr

/-- What a session did, when it ended without an error. -/
structure Summary where
  rendered : Nat
  stop : Stop
  deriving DecidableEq, Repr

/-- Have as many labels been rendered as the policy allows? -/
def SessionPolicy.reached (policy : SessionPolicy) (rendered : Nat) : Bool :=
  match policy.cap with
  | none => false
  | some cap => cap ≤ rendered

end CommentSeparator
