import CommentSeparator.CommandLine.Invocation

/-!
# Arguments

The shape of one word of a command line, and the options there are.

* `Argument.ofWord` — a word is the mark that ends options, a long option, a cluster of short ones,
  or plain.
* `Scope.switches` — the options that can be given before a command, and after each.
-/

namespace CommentSeparator

/-- A word of a command line by its shape. -/
inductive Argument where
  /-- Two dashes: no options follow. -/
  | separator
  /-- Two dashes and a name, with what stands behind an equals sign. -/
  | long (name : String) (value? : Option String)
  /-- A dash and letters. -/
  | short (letters : List Char)
  /-- Any other word, a single dash included. -/
  | plain
  deriving DecidableEq, Repr

/-- Cuts a text at the first equals sign. -/
def splitValue (text : List Char) : String × Option String :=
  let name := text.takeWhile (· ≠ '=')
  (String.ofList name, (text.drop name.length).tail?.map String.ofList)

/-- The shape of a word. -/
def Argument.ofWord (word : String) : Argument :=
  match word.toList with
  | ['-', '-'] => .separator
  | '-' :: '-' :: rest => .long (splitValue rest).1 (splitValue rest).2
  | '-' :: c :: rest => .short (c :: rest)
  | _ => .plain

/-- The options and flags. -/
inductive Switch where
  | config
  | verbose
  | help
  | quit
  | count
  | labelBranch
  deriving DecidableEq, Repr

namespace Switch

/-- Does the option take a value? -/
def takesValue : Switch → Bool
  | .config | .quit | .count => true
  | .verbose | .help | .labelBranch => false

def long : Switch → String
  | .config => "config"
  | .verbose => "verbose"
  | .help => "help"
  | .quit => "quit"
  | .count => "count"
  | .labelBranch => "label-branch"

def short? : Switch → Option Char
  | .config => some 'c'
  | .verbose => some 'v'
  | .help => some 'h'
  | .quit => some 'q'
  | .count => some 'n'
  | .labelBranch => none

end Switch

/-- Where a word stands: before the command, or behind it. -/
inductive Scope where
  | root
  | command (name : CommandName)
  deriving DecidableEq, Repr

namespace Scope

/-- The options of a scope.  Three of them can be given everywhere. -/
def switches : Scope → List Switch
  | .command .region | .command .line => [.labelBranch, .config, .verbose, .help]
  | .command .interactive => [.quit, .count, .labelBranch, .config, .verbose, .help]
  | _ => [.config, .verbose, .help]

/-- Does a word without dashes have a place here? -/
def takesOperand : Scope → Bool
  | .command .header | .command .region | .command .line => true
  | _ => false

/-- The option of a long name. -/
def long? (scope : Scope) (name : String) : Option Switch :=
  scope.switches.find? fun switch => switch.long = name

/-- The option of a letter. -/
def short? (scope : Scope) (letter : Char) : Option Switch :=
  scope.switches.find? fun switch => switch.short? = some letter

end Scope

end CommentSeparator
