import CommentSeparator.Text.Utf8

/-!
# Output sinks and separator blocks

A sink takes octets.  What it took between two flushes is a turn.  A sink may have a limit: it takes
octets up to the limit, part of a write included, and refuses the rest.

* `Sink.write` — one write; `Written.whole` tells whether all of it was taken.
* `Sink.putBlocks` — separator lines, each as a block between blank lines; the first refusal ends
  the writing.
-/

namespace CommentSeparator

/-- A sink for octets: how many it will still take (no bound if there is none), the turns that a
flush has closed, latest first, and what was taken since. -/
structure Sink where
  room : Option Nat := none
  closed : List (List UInt8) := []
  current : List UInt8 := []
  deriving DecidableEq, Repr

/-- A sink after a write, and whether it took all of it. -/
structure Written where
  sink : Sink
  whole : Bool
  deriving DecidableEq, Repr

namespace Sink

/-- The turns in order; the last one is still open. -/
def turns (sink : Sink) : List (List UInt8) :=
  (sink.current :: sink.closed).reverse

/-- All octets taken. -/
def octets (sink : Sink) : List UInt8 :=
  sink.turns.flatten

/-- Closes the current turn. -/
def flush (sink : Sink) : Sink :=
  { sink with closed := sink.current :: sink.closed, current := [] }

/-- Takes octets as far as there is room. -/
def write (sink : Sink) (octets : List UInt8) : Written :=
  match sink.room with
  | none => ⟨{ sink with current := sink.current ++ octets }, true⟩
  | some room =>
    ⟨{ sink with room := some (room - octets.length), current := sink.current ++ octets.take room },
      octets.length ≤ room⟩

/-- Takes a text. -/
def writeText (sink : Sink) (text : String) : Written :=
  sink.write (Text.encode text)

/-- A line as a block: a line feed before it, and two after it. -/
def block (line : String) : String :=
  "\n" ++ line ++ "\n\n"

/-- Takes lines as blocks, up to the first that does not fit. -/
def putBlocks (sink : Sink) : List String → Written
  | [] => ⟨sink, true⟩
  | line :: lines =>
    let written := sink.writeText (block line)
    if written.whole then written.sink.putBlocks lines else written

end Sink

end CommentSeparator
