/-!
# Invocations

What a command line asks for, and why it may be refused.
-/

namespace CommentSeparator

/-- The commands by name. -/
inductive CommandName where
  | header
  | region
  | line
  | interactive
  | styles
  | version
  deriving DecidableEq, Repr

/-- A command with what it was given. -/
inductive Command where
  /-- Print one header. -/
  | header (label : Option String)
  /-- Print a pair of region lines. -/
  | region (label : Option String) (labelBranch : Bool)
  /-- Print the separators for one input line. -/
  | line (input : String) (labelBranch : Bool)
  /-- Prompt for labels. -/
  | interactive (quitWord : Option String) (cap : Option UInt64) (labelBranch : Bool)
  /-- Print the effective styles. -/
  | styles
  /-- Print the version. -/
  | version
  deriving DecidableEq, Repr

/-- What a command line asks for.  Without a command, labels are prompted for. -/
structure Invocation where
  config : Option String := none
  verbosity : UInt8 := 0
  command? : Option Command := none
  deriving DecidableEq, Repr

/-- Why a command line is refused.  Asking for help is answered with help instead. -/
inductive Refusal where
  | help
  /-- A word that should be a command and is none. -/
  | invalidSubcommand
  /-- An option that does not exist here, or a surplus word. -/
  | unknownArgument
  /-- An option without its value, or an empty style file. -/
  | invalidValue
  /-- A flag with a value. -/
  | tooManyValues
  /-- An option given twice. -/
  | argumentConflict
  /-- A word that the command needs is not there. -/
  | missingRequiredArgument
  /-- A value that is not of the right kind. -/
  | valueValidation
  deriving DecidableEq, Repr

/-- The exit status for a refused command line. -/
def Refusal.exitCode : Refusal → Nat
  | .help => 0
  | _ => 2

namespace CommandName

/-- The commands in the order of the help text. -/
def all : List CommandName :=
  [.header, .region, .line, .interactive, .styles, .version]

def text : CommandName → String
  | .header => "header"
  | .region => "region"
  | .line => "line"
  | .interactive => "interactive"
  | .styles => "styles"
  | .version => "version"

/-- The command of a name. -/
def ofText? (word : String) : Option CommandName :=
  all.find? fun name => name.text = word

theorem ofText?_text (name : CommandName) : ofText? name.text = some name := by
  cases name <;> decide

end CommandName

end CommentSeparator
