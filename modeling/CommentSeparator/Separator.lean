import CommentSeparator.Fill
import CommentSeparator.Style

/-!
# Separators

A header is one line, a region a pair of them.  Each line is its opening delimiter, the label
between two spaces unless it is left out, dashes, for the end of a region the end marker, and the
closing delimiter.  A label is not checked: whatever it holds is copied.

* `Arithmetic.header`, `Arithmetic.region` — the lines, and every sum and difference on the way to
  them.
* `HeaderStyle.line` — the header around a label; an empty label is left out.
* `RegionStyle.lines` — the two lines of a region.  Both leave the label out, or neither.
-/

namespace CommentSeparator

/-- A label between its two spaces. -/
def spaced (label : String) : String :=
  " " ++ label ++ " "

/-! ## Headers -/

/-- A header that begins as given, with the given room for fill. -/
def HeaderStyle.fillLine (style : HeaderStyle) (beginning : String) (room : Int) :
    Logged String := do
  let fill ← fillRoom room
  pure (beginning ++ fill ++ style.closing)

/-- The header line around a label. -/
def Arithmetic.header {m : Type → Type} [Monad m] (arith : Arithmetic m) (style : HeaderStyle)
    (label : String) : m (Logged String) := do
  let room ← arith.room style.width style.opening style.closing 1
  if label.isEmpty then
    pure (style.fillLine style.opening room)
  else
    let taken ← arith.labelRoom label
    let left ← arith.settle (room - taken)
    pure (style.fillLine (style.opening ++ spaced label) left)

/-- The header line around a label, counted with numbers that go round. -/
def HeaderStyle.line (style : HeaderStyle) (label : String) : Logged String :=
  Id.run (Arithmetic.wrapping.header style label)

/-! ## Regions -/

/-- What marks the end line of a region, before the closing delimiter. -/
def endMarker : String := " END "

/-- The two lines of a region. -/
structure RegionPair where
  top : String
  bottom : String
  deriving DecidableEq, Repr

/-- The lines in the order they are written. -/
def RegionPair.toList (lines : RegionPair) : List String :=
  [lines.top, lines.bottom]

/-- Does the policy leave the label out, with so much room in the top line? -/
def BranchPolicy.leavesOut (branch : BranchPolicy) (topRoom : Int) (label : String) : Bool :=
  match branch with
  | .dashCount => topRoom = 0
  | .label => label.isEmpty

/-- Two lines that begin alike, with the given room for fill. -/
def RegionStyle.fillLines (style : RegionStyle) (beginning : String) (top bottom : Int) :
    Logged RegionPair := do
  let topFill ← fillRoom top
  let bottomFill ← fillRoom bottom
  pure ⟨beginning ++ topFill ++ style.closing,
    beginning ++ bottomFill ++ endMarker ++ style.closing⟩

/-- The two lines without the label.  A label that is lost is reported. -/
def RegionStyle.bareLines (style : RegionStyle) (label : String) (top bottom : Int) :
    Logged RegionPair := do
  if !label.isEmpty then
    Logged.report (.labelDropped label style.width)
  style.fillLines style.opening top bottom

/-- The pair of region lines around a label. -/
def Arithmetic.region {m : Type → Type} [Monad m] (arith : Arithmetic m) (style : RegionStyle)
    (label : String) : m (Logged RegionPair) := do
  let top ← arith.room style.width style.opening style.closing 1
  let reserved ← arith.settle (endMarker.length + 1)
  let bottom ← arith.room style.width style.opening style.closing reserved
  if style.branch.leavesOut top label then
    pure (style.bareLines label top bottom)
  else
    let taken ← arith.labelRoom label
    let top ← arith.settle (top - taken)
    let bottom ← arith.settle (bottom - taken)
    pure (style.fillLines (style.opening ++ spaced label) top bottom)

namespace RegionStyle

/-- The room of the top line, before a label is put in. -/
def topRoom (style : RegionStyle) : Int :=
  freeRoom style.width style.opening style.closing 1

/-- Does the policy leave the label out? -/
def leavesOut (style : RegionStyle) (label : String) : Bool :=
  style.branch.leavesOut style.topRoom label

/-- The pair of region lines around a label, counted with numbers that go round. -/
def lines (style : RegionStyle) (label : String) : Logged RegionPair :=
  Id.run (Arithmetic.wrapping.region style label)

end RegionStyle

end CommentSeparator
