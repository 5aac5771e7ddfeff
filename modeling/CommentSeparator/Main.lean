import CommentSeparator.Program

/-!
# Command line

The outer layer of the program.  It looks at the files and streams around it and hands what it finds
to the library; sessions are held round by round, so that a prompt is shown before its answer is
read.
-/

namespace CommentSeparator.Main

/-- What the help says. -/
def usage : String :=
  "Generate decorative comment separators\n\n" ++
    "Usage: sepgen [-c FILE] [-v]... [COMMAND]\n\n" ++
    "Commands:\n" ++
    "  header [LABEL]                                Print one header separator\n" ++
    "  region [--label-branch] [LABEL]               Print a region separator pair\n" ++
    "  line [--label-branch] INPUT                   Print separators for one raw input\n" ++
    "  interactive [-q WORD] [-n N] [--label-branch] Prompt for labels (default)\n" ++
    "  styles                                        Print the effective styles as TOML\n" ++
    "  version                                       Print version information\n"

/-- What is said about a command line that is refused. -/
def reason : Refusal → String
  | .help => ""
  | .invalidSubcommand => "no such command"
  | .unknownArgument => "unexpected argument"
  | .invalidValue => "an option needs a value"
  | .tooManyValues => "a flag takes no value"
  | .argumentConflict => "an option was given twice"
  | .missingRequiredArgument => "an input is needed"
  | .valueValidation => "the count is not a number"

/-- What is known of a path: is there a regular file, and what does it hold? -/
structure Sight where
  isFile : Bool
  content : Except ReadError (List UInt8)

/-- Looks at a path. -/
def look (path : Path) : IO Sight := do
  let file := System.mkFilePath [path.text]
  let isFile ← try pure ((← file.metadata).type == .file) catch _ => pure false
  let content ←
    try
      if ← file.isDir then pure (.error .isDirectory)
      else pure (.ok (← IO.FS.readBinFile file).data.toList)
    catch
      | .noFileOrDirectory .. => pure (.error .notFound)
      | error => pure (.error (.other (toString error)))
  pure ⟨isFile, content⟩

/-- The files that matter: the one that was named, or the candidates above a directory up to the
first file. -/
def lookAll : List Path → IO (List (Path × Sight))
  | [] => pure []
  | path :: rest => do
    let sight ← look path
    if sight.isFile then pure [(path, sight)]
    else do pure ((path, sight) :: (← lookAll rest))

/-- A view of the files that were looked at. -/
def viewOf (sights : List (Path × Sight)) : FileView where
  isFile path := (sights.lookup path).any Sight.isFile
  read path := (sights.lookup path).elim (.error .notFound) Sight.content

/-- Writes octets to the output. -/
def put (octets : List UInt8) : IO Unit := do
  let output ← IO.getStdout
  output.write ⟨octets.toArray⟩
  output.flush

/-- Writes the log lines of events. -/
def log (filter : Filter) (events : List Event) : IO Unit :=
  for event in events do
    if filter.passes event then IO.eprintln event.line

/-- Writes what a session has written, and begins afresh. -/
def emit (progress : Session.Progress) : IO Session.Progress := do
  put progress.sink.octets
  pure { progress with sink := {} }

/-- Logs what was reported, and goes on with the value. -/
def logged {α : Type} (filter : Filter) (step : Logged α) : IO α := do
  log filter step.events
  pure step.value

/-- The octets up to a line feed, or up to the end of the input. -/
partial def readLine (input : IO.FS.Stream) (read : List UInt8) : IO (List UInt8) := do
  let octets ← input.read 1
  match octets.data.toList with
  | [] => pure read.reverse
  | octet :: _ =>
    if octet = 10 then pure (octet :: read).reverse else readLine input (octet :: read)

/-- Ends a session. -/
def conclude (report : Session.Report) : IO (Option Failure) := do
  let _ ← emit report.progress
  match report.result with
  | .ok _ => pure none
  | .error error => pure (some (.session error))

/-- Holds a session, round by round. -/
partial def converse (filter : Filter) (styles : Styles) (policy : SessionPolicy)
    (progress : Session.Progress) : IO (Option Failure) := do
  match ← logged filter (Session.ask policy progress) with
  | .error report => conclude report
  | .ok asked =>
    let asked ← emit asked
    let line ← readLine (← IO.getStdin) []
    if line.isEmpty then conclude (← logged filter (Session.endInput asked))
    else
      match ← logged filter (Session.answer styles policy asked line) with
      | .error report => conclude report
      | .ok next => converse filter styles policy (← emit next)

/-- Does a job. -/
def carryOut (filter : Filter) : Job → IO (Option Failure)
  | .session styles policy => converse filter styles policy { sink := {} }
  | job => do
    let execution ← logged filter (Program.perform [] job)
    put execution.output
    pure execution.failure

/-- The working directory, or why it cannot be told. -/
def workingDirectory : IO (Except ReadError Path) := do
  try pure (.ok (Path.ofText (← IO.currentDir).toString))
  catch
    | .noFileOrDirectory .. => pure (.error .notFound)
    | error => pure (.error (.other (toString error)))

/-- What there is around, as far as it matters with the given style file. -/
def surroundings (config : Option Path) : IO Program.Surroundings := do
  let (directory, directoryError?) := match ← workingDirectory with
    | .ok directory => (directory, none)
    | .error error => (⟨true, []⟩, some error)
  let sights ← lookAll (config.elim (StyleFile.candidates directory) fun path => [path])
  let logSetting ← IO.getEnv "RUST_LOG"
  pure { directory, directoryError?, files := viewOf sights, logSetting }

/-- Carries out an invocation. -/
def execute (invocation : Invocation) : IO (Option Failure) := do
  let config := invocation.config.map Path.ofText
  let around ← surroundings config
  let filter := Filter.effective around.logSetting invocation.verbosity
  match ← logged filter (around.resolve config) with
  | .error failure => pure (some failure)
  | .ok resolved =>
    carryOut filter (← logged filter ((invocation.command?.getD .implied).job resolved))

end CommentSeparator.Main

open CommentSeparator CommentSeparator.Main in
/-- Runs the program. -/
def main (words : List String) : IO UInt32 := do
  match Invocation.ofWords words with
  | .error refusal =>
    if refusal = .help then IO.print usage
    else IO.eprintln ("error: " ++ reason refusal ++ "\n\n" ++ usage)
    pure refusal.exitCode.toUInt32
  | .ok invocation =>
    try
      match ← execute invocation with
      | none => pure 0
      | some failure => do
        IO.eprintln ("error: " ++ failure.message)
        pure 1
    catch error => do
      IO.eprintln ("error: " ++ toString error)
      pure 1
