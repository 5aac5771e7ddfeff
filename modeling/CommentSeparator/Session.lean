import CommentSeparator.Request
import CommentSeparator.Sink

/-!
# Sessions

A session prompts for a label, reads one line, writes the separators for it, and begins again.  Four
things can end it, looked at in this order: the cap, which is looked at before the prompt; the end
of the input, after the prompt; a line that is not UTF-8; the quit word.  A full sink ends it
wherever it stands.

* `Session.inputLines` — the input cut after each line feed.
* `Session.ask` — the first half of a round: the cap, the prompt, the flush.
* `Session.answer` — the second half, when a line is read; `Session.endInput`, when there is none.
* `Session.run` — rounds until one of them ends the session.
-/

namespace CommentSeparator

/-- What breaks a session off. -/
inductive SessionError where
  /-- The sink did not take the whole prompt. -/
  | promptRefused
  /-- A line is not UTF-8. -/
  | lineNotText
  /-- The sink did not take the line feed after the last prompt. -/
  | endingRefused
  /-- The sink did not take all the separator blocks of a label. -/
  | separatorRefused
  deriving DecidableEq, Repr

namespace SessionError

/-- What was being done, and what went wrong with it; a full sink is described by its owner. -/
def chain (sinkFull : String) : SessionError → List String
  | promptRefused => ["failed to write prompt", sinkFull]
  | lineNotText => ["failed to read label", Text.notTextMessage]
  | endingRefused => ["failed to write output", sinkFull]
  | separatorRefused => ["failed to write separator", sinkFull]

/-- What a message says about a session that was broken off. -/
def message (sinkFull : String) (error : SessionError) : String :=
  ": ".intercalate (error.chain sinkFull)

end SessionError

namespace Session

/-- The prompt for a label. -/
def prompt : String := "Insert label name: "

/-- The octets cut after each line feed; what follows the last one is a line if there is any. -/
def inputLines : List UInt8 → List (List UInt8)
  | [] => []
  | octet :: octets =>
    if octet = 10 then [octet] :: inputLines octets
    else
      match inputLines octets with
      | [] => [[octet]]
      | line :: lines => (octet :: line) :: lines

/-- A line without its end: one line feed, and one carriage return before it.  A line that was not
ended by a line feed keeps all it has. -/
def stripEnd (line : List Char) : List Char :=
  match line.reverse with
  | '\n' :: '\r' :: rest => rest.reverse
  | '\n' :: rest => rest.reverse
  | _ => line

/-- How far a session has come. -/
structure Progress where
  sink : Sink
  rendered : Nat := 0
  consumed : Nat := 0
  deriving DecidableEq, Repr

/-- How a session ended: where it had come by then, and its summary or what broke it off. -/
structure Report where
  progress : Progress
  result : Except SessionError Summary

/-- Ends a session without an error; the end is reported as an event. -/
def Progress.finish (progress : Progress) (stop : Stop) : Logged Report := do
  let summary := ⟨progress.rendered, stop⟩
  Logged.report (.sessionFinished summary)
  pure ⟨progress, .ok summary⟩

/-- Breaks a session off. -/
def Progress.fail (progress : Progress) (error : SessionError) : Report :=
  ⟨progress, .error error⟩

/-- A half round either ends the session or hands it on. -/
abbrev Half := Except Report Progress

/-- Looks at the cap, then prompts and flushes. -/
def ask (policy : SessionPolicy) (progress : Progress) : Logged Half :=
  if policy.reached progress.rendered then do
    let report ← progress.finish .countReached
    pure (.error report)
  else
    let written := progress.sink.writeText prompt
    if written.whole then pure (.ok { progress with sink := written.sink.flush })
    else pure (.error ({ progress with sink := written.sink }.fail .promptRefused))

/-- Writes the separators for a label. -/
def writeSeparators (styles : Styles) (progress : Progress) (label : String) : Logged Half := do
  let lines ← styles.render label
  let written := progress.sink.putBlocks lines
  let progress := { progress with sink := written.sink }
  if written.whole then pure (.ok { progress with rendered := progress.rendered + 1 })
  else pure (.error (progress.fail .separatorRefused))

/-- Takes the line that is read after a prompt. -/
def answer (styles : Styles) (policy : SessionPolicy) (progress : Progress)
    (line : List UInt8) : Logged Half :=
  let progress := { progress with consumed := progress.consumed + line.length }
  match Text.decode? line with
  | none => pure (.error (progress.fail .lineNotText))
  | some text =>
    let label := String.ofList (stripEnd text.toList)
    if policy.quitWord = some label then do
      let report ← progress.finish .quitWord
      pure (.error report)
    else writeSeparators styles progress label

/-- Ends a session whose input has ended after a prompt.  A line feed ends the dangling prompt, so
that what follows begins on a fresh line. -/
def endInput (progress : Progress) : Logged Report :=
  let written := progress.sink.writeText "\n"
  let progress := { progress with sink := written.sink }
  if written.whole then progress.finish .endOfInput else pure (progress.fail .endingRefused)

/-- Rounds from the given progress on, over the lines not yet read. -/
def rounds (styles : Styles) (policy : SessionPolicy) (progress : Progress) :
    List (List UInt8) → Logged Report
  | [] => do
    match ← ask policy progress with
    | .error report => pure report
    | .ok asked => endInput asked
  | line :: lines => do
    match ← ask policy progress with
    | .error report => pure report
    | .ok asked =>
      match ← answer styles policy asked line with
      | .error report => pure report
      | .ok next => rounds styles policy next lines

/-- A whole session over an input. -/
def run (styles : Styles) (policy : SessionPolicy) (sink : Sink) (input : List UInt8) :
    Logged Report :=
  rounds styles policy { sink } (inputLines input)

end Session

end CommentSeparator
