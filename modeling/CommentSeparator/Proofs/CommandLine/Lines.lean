import CommentSeparator.Proofs.CommandLine.RoundTrip

/-!
# Some command lines and what they ask for

The command lines that are used further on, each of them one spelling among many.  Global options
stand before the command, with the style file attached to its name and a `-v` for each time.
-/

namespace CommentSeparator

lemma words_globalSpelled (config : Option String) (verbose : ℕ) :
    (globalSpelled config verbose).flatMap Spelled.words = globalWords config verbose := by
  have hverbose : (List.replicate verbose (Spelled.cluster 0)).flatMap Spelled.words
      = List.replicate verbose "-v" := by
    rw [List.flatMap_replicate]
    exact List.flatten_replicate_singleton
  rw [globalSpelled, List.flatMap_append, hverbose, globalWords]
  cases config <;> rfl

lemma words_labelBranchSpelled (labelBranch : Bool) :
    (labelBranchSpelled labelBranch).flatMap Spelled.words = labelBranchWords labelBranch := by
  cases labelBranch <;> rfl

lemma words_interactiveSpelled (quitWord count : Option String) (labelBranch : Bool) :
    (interactiveSpelled quitWord count labelBranch).flatMap Spelled.words
      = interactiveWords quitWord count labelBranch := by
  rw [interactiveSpelled, List.flatMap_append, words_labelBranchSpelled, interactiveWords]
  cases quitWord <;> cases count <;> rfl

namespace Invocation

variable {config : Option String} (hconfig : config ≠ some "") (verbose : ℕ)
include hconfig

/-- Without a command. -/
lemma ofWords_globalWords :
    ofWords (globalWords config verbose) = .ok (withGlobals config verbose none) := by
  have hread := ofWords_alone (gives_globalSpelled .root hconfig verbose)
  rw [SpelledLine.words, words_globalSpelled, verbosityOf_globalFound] at hread
  exact hread

/-- With a command: the options behind it say what it is given. -/
lemma ofWords_command (command : Command) {behind : List Spelled} {words : List String}
    (hbehind : Gives (.command command.name) behind command.options)
    (hwords : behind.flatMap Spelled.words ++ operandWords command.operand? = words) :
    ofWords (globalWords config verbose ++ command.name.text :: words)
      = .ok (withGlobals config verbose (some command)) := by
  rw [command.options_eq] at hbehind
  have hread := ofWords_command_line (gives_globalSpelled .root hconfig verbose) hbehind
  rw [SpelledLine.words, words_globalSpelled, hwords, Option.none_or, Option.none_or,
    verbosityOf_globalFound] at hread
  exact hread

lemma ofWords_header (label : String) :
    ofWords (globalWords config verbose ++ ["header", "--", label])
      = .ok (withGlobals config verbose (some (.header (some label)))) :=
  ofWords_command hconfig verbose (.header (some label)) (gives_nothing _) rfl

lemma ofWords_region (label : String) (labelBranch : Bool) :
    ofWords (globalWords config verbose
        ++ "region" :: (labelBranchWords labelBranch ++ ["--", label]))
      = .ok (withGlobals config verbose (some (.region (some label) labelBranch))) :=
  ofWords_command hconfig verbose (.region (some label) labelBranch) (gives_spelled _)
    (congrArg (· ++ ["--", label]) (words_labelBranchSpelled labelBranch))

lemma ofWords_line (input : String) (labelBranch : Bool) :
    ofWords (globalWords config verbose
        ++ "line" :: (labelBranchWords labelBranch ++ ["--", input]))
      = .ok (withGlobals config verbose (some (.line input labelBranch))) :=
  ofWords_command hconfig verbose (.line input labelBranch) (gives_spelled _)
    (congrArg (· ++ ["--", input]) (words_labelBranchSpelled labelBranch))

lemma ofWords_styles :
    ofWords (globalWords config verbose ++ ["styles"])
      = .ok (withGlobals config verbose (some .styles)) :=
  ofWords_command hconfig verbose .styles (gives_nothing _) rfl

/-- The options of a session, where the word for the cap is a number. -/
lemma ofWords_interactive {count : Option String} {cap : Option UInt64}
    (hcount : count.map Text.count? = cap.map some) (quitWord : Option String)
    (labelBranch : Bool) :
    ofWords (globalWords config verbose
        ++ "interactive" :: interactiveWords quitWord count labelBranch)
      = .ok (withGlobals config verbose (some (.interactive quitWord cap labelBranch))) := by
  refine ofWords_command hconfig verbose (.interactive quitWord cap labelBranch)
    (gives_interactiveSpelled hcount quitWord labelBranch) ?_
  rw [words_interactiveSpelled]
  exact List.append_nil _

/-- One label only. -/
lemma ofWords_interactive_one (labelBranch : Bool) :
    ofWords (globalWords config verbose
        ++ "interactive" :: "-n" :: "1" :: labelBranchWords labelBranch)
      = .ok (withGlobals config verbose (some (.interactive none (some 1) labelBranch))) := by
  have hbehind : Gives (.command .interactive)
      (.valued .count .shortSeparate "1" :: labelBranchSpelled labelBranch)
      { cap := some 1, labelBranch } := by
    cases labelBranch <;> decide
  refine ofWords_command hconfig verbose (.interactive none (some 1) labelBranch) hbehind ?_
  cases labelBranch <;> rfl

end Invocation

end CommentSeparator
