import CommentSeparator.CommandLine.Argument
import CommentSeparator.Text.Count

/-!
# Reading a command line

A command line is read word by word.  An option that is still waiting for its value, or has just got
it, is pending: it takes effect when the next option or operand is met, or at the end.  So of two
mistakes the one that is met first is reported, but a pending option counts as met later than the
word behind it.

Options before the command and behind it are kept apart.  An option that can stand in both places
means what was said behind the command, if anything was.

* `Reading.step` — what one word means in a scope.
* `Invocation.ofWords` — what a whole command line asks for.
-/

namespace CommentSeparator

/-- What was found in a scope. -/
structure Found where
  config : Option String := none
  verbose : Option Nat := none
  quitWord : Option String := none
  cap : Option UInt64 := none
  labelBranch : Bool := false
  operand : Option String := none
  deriving DecidableEq, Repr

/-- How far a scope has been read. -/
structure Reading where
  found : Found := {}
  /-- An option that has not taken effect yet, with its value if it has one. -/
  pending : Option (Switch × Option String) := none
  /-- Have two dashes ended the options? -/
  onlyOperands : Bool := false
  deriving DecidableEq, Repr

/-- An option with a value takes effect.  A missing value is worse than a repeated option, and that
is worse than a bad value. -/
def Found.give (found : Found) (switch : Switch) (value? : Option String) :
    Except Refusal Found :=
  match value? with
  | none => .error .invalidValue
  | some value =>
    match switch with
    | .config =>
      if found.config.isSome then .error .argumentConflict
      else if value.isEmpty then .error .invalidValue
      else .ok { found with config := some value }
    | .quit =>
      if found.quitWord.isSome then .error .argumentConflict
      else .ok { found with quitWord := some value }
    | .count =>
      if found.cap.isSome then .error .argumentConflict
      else
        match Text.count? value with
        | some cap => .ok { found with cap := some cap }
        | none => .error .valueValidation
    | .verbose | .help | .labelBranch => .ok found

/-- A flag takes effect.  Only the flag for more log output may be repeated. -/
def Found.raise (found : Found) : Switch → Except Refusal Found
  | .verbose => .ok { found with verbose := some (found.verbose.getD 0 + 1) }
  | .help => .error .help
  | .labelBranch =>
    if found.labelBranch then .error .argumentConflict else .ok { found with labelBranch := true }
  | .config | .quit | .count => .ok found

namespace Reading

/-- Is an option waiting for its value? -/
def awaiting (reading : Reading) : Bool :=
  match reading.pending with
  | some (_, none) => true
  | _ => false

/-- The pending option takes effect. -/
def settle (reading : Reading) : Except Refusal Reading :=
  match reading.pending with
  | none => .ok reading
  | some (switch, value?) => do
    let found ← reading.found.give switch value?
    pure { reading with found, pending := none }

/-- An option with the value that is attached to it; without one it waits. -/
def option (reading : Reading) (switch : Switch) (value? : Option String) :
    Except Refusal Reading := do
  let reading ← reading.settle
  match value? with
  | some value => do
    let found ← reading.found.give switch (some value)
    pure { reading with found }
  | none => pure { reading with pending := some (switch, none) }

/-- A flag. -/
def flag (reading : Reading) (switch : Switch) : Except Refusal Reading := do
  let reading ← reading.settle
  let found ← reading.found.raise switch
  pure { reading with found }

/-- The value attached to a short option: what is behind its letter, without an equals sign. -/
def attached? : List Char → Option String
  | [] => none
  | '=' :: value => some (String.ofList value)
  | value => some (String.ofList value)

/-- A cluster of short options.  One that takes a value ends the cluster. -/
def cluster (scope : Scope) (reading : Reading) : List Char → Except Refusal Reading
  | [] => .ok reading
  | letter :: rest =>
    match scope.short? letter with
    | none => .error .unknownArgument
    | some switch =>
      if switch.takesValue then reading.option switch (attached? rest)
      else do
        let reading ← reading.flag switch
        reading.cluster scope rest

/-- A long option. -/
def long (scope : Scope) (reading : Reading) (name : String) (value? : Option String) :
    Except Refusal Reading :=
  match scope.long? name with
  | none => .error .unknownArgument
  | some switch =>
    if switch.takesValue then reading.option switch value?
    else if value?.isSome then .error .tooManyValues
    else reading.flag switch

/-- Is the word a command, or the word that asks for help? -/
def isCommandWord (word : String) : Bool :=
  word = "help" || (CommandName.ofText? word).isSome

/-- Why a word has no place in a scope.  Before the command it should have been one. -/
def surplus (scope : Scope) (reading : Reading) (word : String) : Refusal :=
  if scope = .root ∧ ¬(reading.onlyOperands ∧ isCommandWord word) then .invalidSubcommand
  else .unknownArgument

/-- A word that is no option and no value of one. -/
def operand (scope : Scope) (reading : Reading) (word : String) : Except Refusal Reading :=
  if scope.takesOperand ∧ reading.found.operand.isNone then do
    let reading ← reading.settle
    pure { reading with found := { reading.found with operand := some word } }
  else .error (reading.surplus scope word)

/-- One word. -/
def step (scope : Scope) (reading : Reading) (word : String) : Except Refusal Reading :=
  if reading.onlyOperands then reading.operand scope word
  else
    match Argument.ofWord word with
    | .separator => .ok { reading with onlyOperands := true }
    | .long name value? => reading.long scope name value?
    | .short letters => reading.cluster scope letters
    | .plain =>
      match reading.pending with
      | some (switch, none) => .ok { reading with pending := some (switch, some word) }
      | _ => reading.operand scope word

/-- All words of a scope. -/
def steps (scope : Scope) (reading : Reading) (words : List String) : Except Refusal Reading :=
  words.foldlM (step scope) reading

/-- The words up to a command, the command, and the words behind it. -/
def toCommand (reading : Reading) :
    List String → Except Refusal (Reading × Option (CommandName × List String))
  | [] => .ok (reading, none)
  | word :: rest =>
    if reading.onlyOperands ∨ reading.awaiting then do
      let reading ← reading.step .root word
      reading.toCommand rest
    else
      match CommandName.ofText? word with
      | some name => .ok (reading, some (name, rest))
      | none =>
        if word = "help" then
          .error (if rest.all isCommandWord ∧ rest.length ≤ 1 then .help else .invalidSubcommand)
        else do
          let reading ← reading.step .root word
          reading.toCommand rest

end Reading

/-- The command of a name with what was found behind it. -/
def CommandName.command (name : CommandName) (found : Found) : Except Refusal Command :=
  match name with
  | .header => .ok (.header found.operand)
  | .region => .ok (.region found.operand found.labelBranch)
  | .line =>
    match found.operand with
    | some input => .ok (.line input found.labelBranch)
    | none => .error .missingRequiredArgument
  | .interactive => .ok (.interactive found.quitWord found.cap found.labelBranch)
  | .styles => .ok .styles
  | .version => .ok .version

namespace Invocation

/-- How much log output was asked for; more than 255 times is 255 times. -/
def verbosityOf (count? : Option Nat) : UInt8 :=
  UInt8.ofNat (min 255 (count?.getD 0))

/-- What a command line asks for, given its words without the name of the program. -/
def ofWords (words : List String) : Except Refusal Invocation := do
  let (reading, command) ← ({} : Reading).toCommand words
  match command with
  | none =>
    let before ← reading.settle
    pure { config := before.found.config, verbosity := verbosityOf before.found.verbose }
  | some (name, rest) =>
    let behind ← Reading.steps (.command name) {} rest
    let behind ← behind.settle
    let command ← name.command behind.found
    let before ← reading.settle
    pure
      { config := behind.found.config.or before.found.config
        verbosity := verbosityOf (behind.found.verbose.or before.found.verbose)
        command? := some command }

end Invocation

end CommentSeparator
