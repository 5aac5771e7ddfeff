import CommentSeparator.CommandLine
import Mathlib.Tactic.Common

/-!
# The words of command lines

The words of some command lines, and what one word does.  A value may be any text where it is
attached to its option with an equals sign, or stands behind two dashes.

Before the command no word that begins with a dash is taken for a command (`toCommand_of_dash`), and
the first word that names one ends the global options (`toCommand_command`).
-/

namespace CommentSeparator

/-! ## Words -/

/-- An option with its value attached. -/
def attachedWord (switch : Switch) (value : String) : String :=
  "--" ++ switch.long ++ "=" ++ value

/-- The words for the options that can stand before every command. -/
def globalWords (config : Option String) (verbose : ℕ) : List String :=
  (config.map (attachedWord .config)).toList ++ List.replicate verbose "-v"

/-- The flag of the branch policy, if it is given. -/
def labelBranchWords (labelBranch : Bool) : List String :=
  if labelBranch then ["--label-branch"] else []

/-- The words behind `interactive`. -/
def interactiveWords (quitWord count : Option String) (labelBranch : Bool) : List String :=
  (quitWord.map (attachedWord .quit)).toList ++ (count.map (attachedWord .count)).toList
    ++ labelBranchWords labelBranch

/-! ## One word -/

lemma splitValue_append {name : List Char} (hname : '=' ∉ name) (value : List Char) :
    splitValue (name ++ '=' :: value) = (String.ofList name, some (String.ofList value)) := by
  have htake : (name ++ '=' :: value).takeWhile (· ≠ '=') = name := by
    rw [List.takeWhile_append_of_pos]
    · simp
    · intro c hc
      simp only [ne_eq, decide_eq_true_eq]
      rintro rfl
      exact hname hc
  rw [splitValue, htake]
  simp

lemma Argument.ofWord_attachedWord (switch : Switch) (value : String) :
    Argument.ofWord (attachedWord switch value) = .long switch.long (some value) := by
  have hname : '=' ∉ switch.long.toList := by cases switch <;> decide
  have hword : (attachedWord switch value).toList
      = '-' :: '-' :: (switch.long.toList ++ '=' :: value.toList) := by
    simp [attachedWord]
  have hne : switch.long.toList ++ '=' :: value.toList ≠ [] := by simp
  obtain ⟨c, rest, hrest⟩ := List.exists_cons_of_ne_nil hne
  rw [Argument.ofWord, hword, hrest]
  simp only
  rw [← hrest, splitValue_append hname, String.ofList_toList, String.ofList_toList]

namespace Reading

variable {reading next : Reading} {scope : Scope} {word : String}

/-- A command or the word for help begins with a letter. -/
lemma ne_of_dash (hword : word.toList.head? = some '-') :
    CommandName.ofText? word = none ∧ word ≠ "help" := by
  constructor
  · rw [CommandName.ofText?, List.find?_eq_none]
    intro name _ hname
    rw [decide_eq_true_eq] at hname
    subst hname
    cases name <;> exact absurd hword (by decide)
  · rintro rfl
    exact absurd hword (by decide)

/-- A word with a dash in front is no command. -/
lemma toCommand_of_dash (hopen : reading.onlyOperands = false)
    (hawaiting : reading.awaiting = false) (hword : word.toList.head? = some '-')
    (hstep : reading.step .root word = .ok next) (rest : List String) :
    reading.toCommand (word :: rest) = next.toCommand rest := by
  obtain ⟨hcommand, hhelp⟩ := ne_of_dash hword
  rw [toCommand]
  simp only [hopen, hawaiting, hcommand, hhelp, hstep, Bool.false_eq_true, or_self, if_false]
  rfl

/-- The first word that names a command ends the global options. -/
lemma toCommand_command (hopen : reading.onlyOperands = false)
    (hawaiting : reading.awaiting = false) (name : CommandName) (rest : List String) :
    reading.toCommand (name.text :: rest) = .ok (reading, some (name, rest)) := by
  rw [toCommand]
  simp only [hopen, hawaiting, CommandName.ofText?_text, Bool.false_eq_true, or_self, if_false]

lemma steps_append (words more : List String) :
    reading.steps scope (words ++ more)
      = reading.steps scope words >>= fun next => next.steps scope more :=
  List.foldlM_append

/-- A word by itself is one step. -/
lemma steps_singleton (word : String) : reading.steps scope [word] = reading.step scope word := by
  rw [steps, List.foldlM_cons]
  exact bind_pure _

end Reading

/-! ## Global options -/

/-- What is found in the words for global options. -/
def globalFound (config : Option String) (verbose : ℕ) : Found :=
  { config, verbose := if verbose = 0 then none else some verbose }

namespace Invocation

/-- The invocation of a command, or of none, with global options. -/
def withGlobals (config : Option String) (verbose : ℕ) (command? : Option Command) : Invocation :=
  { config, verbosity := UInt8.ofNat (min 255 verbose), command? }

lemma verbosityOf_globalFound (config : Option String) (verbose : ℕ) :
    verbosityOf (globalFound config verbose).verbose = UInt8.ofNat (min 255 verbose) := by
  cases verbose <;> rfl

end Invocation

end CommentSeparator
