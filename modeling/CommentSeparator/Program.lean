import CommentSeparator.CommandLine
import CommentSeparator.Log.Filter
import CommentSeparator.Session
import CommentSeparator.Style.Written
import CommentSeparator.StyleFile

/-!
# The program

A run of the program reads its command line, finds the styles, and carries out one command.  It
writes to its output, logs events, and either succeeds or fails with one message.

* `Program.Surroundings` — what a run finds around it: where it is, the files, and the words of the
  TOML library for what it refuses.
* `Command.job` — what a command has to do, once the styles are known.
* `Program.execute` — what an invocation does: output, failure, and the events reported on the way.
  Nothing of it depends on what is logged of the events.
* `Program.run` — a whole run, from the words of the command line to the exit status.
-/

namespace CommentSeparator

/-- What makes a run fail. -/
inductive Failure where
  /-- The working directory cannot be told, and no style file was named. -/
  | nowhere (error : ReadError)
  | styles (error : LoadError)
  | session (error : SessionError)
  /-- The styles cannot be written. -/
  | unwritable

namespace Failure

/-- What was being done, and what went wrong.  The output of the program takes everything. -/
def chain (words : TomlWords) : Failure → List String
  | nowhere error => ["failed to get current directory", error.message]
  | styles error => error.chain words
  | session error => error.chain "no room left"
  | unwritable => Styles.unwritableChain

/-- What a message says about a failure. -/
def message (failure : Failure) (words : TomlWords := .plain) : String :=
  ": ".intercalate (failure.chain words)

end Failure

/-- What a command has to do. -/
inductive Job where
  /-- Write lines as blocks. -/
  | blocks (lines : List String)
  /-- Write a text, and then fail if there is a failure. -/
  | text (text : String) (failure : Option Failure)
  /-- Hold a session. -/
  | session (styles : Styles) (policy : SessionPolicy)

/-- Writes the name and version of the program. -/
def Job.version : Job :=
  .text "sepgen 0.1.0\n" none

/-- Writes the effective styles, behind a comment that names their source. -/
def Job.styles (resolved : Resolved) : Job :=
  let source := "# source: " ++ resolved.source.text ++ "\n"
  match resolved.styles.toToml? with
  | some toml => .text (source ++ toml) none
  | none => .text source (some .unwritable)

/-- What a command has to do with the styles in effect. -/
def Command.job (resolved : Resolved) : Command → Logged Job
  | .header label => do
    let line ← resolved.styles.header.line (label.getD "")
    pure (.blocks [line])
  | .region label labelBranch => do
    let lines ← (resolved.styles.withLabelBranch labelBranch).region.lines (label.getD "")
    pure (.blocks lines.toList)
  | .line input labelBranch => do
    let lines ← (resolved.styles.withLabelBranch labelBranch).render input
    pure (.blocks lines)
  | .interactive quitWord cap labelBranch =>
    pure
      (.session (resolved.styles.withLabelBranch labelBranch) ⟨quitWord, cap.map UInt64.toNat⟩)
  | .styles => pure (Job.styles resolved)
  | .version => pure Job.version

/-- The command of an invocation that names none. -/
def Command.implied : Command := .interactive none none false

namespace Program

/-- What a run finds around it. -/
structure Surroundings where
  /-- The working directory; it is not looked at if it cannot be told. -/
  directory : Path
  directoryError? : Option ReadError := none
  files : FileView
  tomlWords : TomlWords := .plain
  logSetting : Option String := none
  input : List UInt8 := []

/-- The styles in effect.  The working directory is needed only if no style file is named. -/
def Surroundings.resolve (around : Surroundings) (config : Option Path) :
    Logged (Except Failure Resolved) :=
  match config, around.directoryError? with
  | none, some error => pure (.error (.nowhere error))
  | _, _ => (Except.mapError .styles) <$> StyleFile.resolve around.files around.directory config

/-- What an invocation does: the octets it writes, and how it fails, if it does. -/
structure Execution where
  output : List UInt8 := []
  failure : Option Failure := none

/-- What is written when a job is done. -/
def perform (input : List UInt8) : Job → Logged Execution
  | .blocks lines => pure { output := (({} : Sink).putBlocks lines).sink.octets }
  | .text text failure => pure { output := Text.encode text, failure }
  | .session styles policy => do
    let report ← Session.run styles policy {} input
    let failure := match report.result with
      | .ok _ => none
      | .error error => some (.session error)
    pure { output := report.progress.sink.octets, failure }

/-- What an invocation does.  The styles are needed first, whatever the command. -/
def execute (invocation : Invocation) (around : Surroundings) : Logged Execution := do
  match ← around.resolve (invocation.config.map Path.ofText) with
  | .error failure => pure { failure }
  | .ok resolved => do
    let job ← (invocation.command?.getD .implied).job resolved
    perform around.input job

/-- What a run leaves behind. -/
structure Outcome where
  exitCode : Nat
  output : List UInt8
  /-- The log lines, in order. -/
  log : List String
  /-- What is said about the failure. -/
  errorText : Option String

/-- What an execution leaves behind, under a filter for its events. -/
def outcome (words : TomlWords) (filter : Filter) (execution : Logged Execution) :
    Outcome where
  exitCode := if execution.value.failure.isSome then 1 else 0
  output := execution.value.output
  log := (execution.events.filter filter.passes).map Event.line
  errorText := execution.value.failure.map fun failure => "error: " ++ failure.message words

/-- A whole run. -/
def run (words : List String) (around : Surroundings) : Except Refusal Outcome := do
  let invocation ← Invocation.ofWords words
  let filter := Filter.effective around.logSetting invocation.verbosity
  pure (outcome around.tomlWords filter (execute invocation around))

end Program

end CommentSeparator
