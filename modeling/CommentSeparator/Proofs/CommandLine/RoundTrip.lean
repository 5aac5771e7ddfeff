import CommentSeparator.Proofs.CommandLine.Spelling

/-!
# Invocations and the lines that ask for them

Every invocation can be written as a command line, and in many ways.  `Spells` says which lines mean
an invocation, and nothing about how a line is read: its global options stand all before the command
or all behind it, the options of a scope give what they should in any order and in any of their
spellings (`Gives`), and a word that the command is given stands last, behind two dashes.

**Each place by itself.**  What the options of a place come to is `passesBy_spelled`; here the two
places are put together (`ofWords_command_line`).  There the global options behind the command win,
one by one, and this is the only rule about both places.
-/

namespace CommentSeparator

/-! ## What an invocation asks for, option by option -/

namespace Command

def name : Command → CommandName
  | header _ => .header
  | region _ _ => .region
  | line _ _ => .line
  | interactive _ _ _ => .interactive
  | styles => .styles
  | version => .version

/-- What the options of a command say. -/
def options : Command → Found
  | region _ labelBranch | line _ labelBranch => { labelBranch }
  | interactive quitWord cap labelBranch => { quitWord, cap, labelBranch }
  | header _ | styles | version => {}

/-- The word that a command is given. -/
def operand? : Command → Option String
  | header label => label
  | region label _ => label
  | line input _ => some input
  | interactive _ _ _ | styles | version => none

/-- No option of a command is a global one. -/
lemma options_eq (command : Command) :
    command.options = { command.options with config := none, verbose := none } := by
  cases command <;> rfl

/-- A command is what its options and its operand say. -/
lemma command_options (command : Command) (config : Option String) (verbose : Option ℕ) :
    command.name.command
      { command.options with config, verbose, operand := command.operand? } = .ok command := by
  cases command <;> rfl

lemma takesOperand (command : Command) (hsome : command.operand?.isSome = true) :
    (Scope.command command.name).takesOperand = true := by
  cases command with
  | header _ | region _ _ | line _ _ => rfl
  | interactive _ _ _ | styles | version => exact absurd hsome Bool.false_ne_true

end Command

/-! ## Lines -/

/-- The words for what a command is given. -/
def operandWords : Option String → List String
  | none => []
  | some word => ["--", word]

/-- A command line as it is spelled. -/
inductive SpelledLine where
  | alone (before : List Spelled)
  | command (before : List Spelled) (name : CommandName) (behind : List Spelled)
      (operand? : Option String)
  deriving DecidableEq, Repr

def SpelledLine.words : SpelledLine → List String
  | alone before => before.flatMap Spelled.words
  | command before name behind operand? =>
    before.flatMap Spelled.words
      ++ name.text :: (behind.flatMap Spelled.words ++ operandWords operand?)

/-- Where the global options of a line stand. -/
inductive Placement where
  | before
  | behind
  deriving DecidableEq, Repr

namespace Invocation

/-- What the global options of an invocation say. -/
def globals (invocation : Invocation) : Found :=
  globalFound invocation.config invocation.verbosity.toNat

/-- What is to be found before the command. -/
def outer (invocation : Invocation) : Placement → Found
  | .before => invocation.globals
  | .behind => {}

/-- What is to be found behind the command. -/
def inner (invocation : Invocation) (command : Command) : Placement → Found
  | .before => command.options
  | .behind =>
    { command.options with
      config := invocation.globals.config, verbose := invocation.globals.verbose }

end Invocation

/-- The lines that mean an invocation.  Without a command, all there is stands before it. -/
inductive Spells (invocation : Invocation) : Placement → SpelledLine → Prop
  | alone {before : List Spelled} (hnone : invocation.command? = none)
      (hbefore : Gives .root before invocation.globals) : Spells invocation .before (.alone before)
  | command {placement : Placement} {command : Command} {before behind : List Spelled}
      (hsome : invocation.command? = some command)
      (hbefore : Gives .root before (invocation.outer placement))
      (hbehind : Gives (.command command.name) behind (invocation.inner command placement)) :
      Spells invocation placement (.command before command.name behind command.operand?)

/-! ## The operand -/

namespace Reading

variable {reading : Reading} {scope : Scope} {found : Found}

/-- The mark that ends the options leaves a pending one as it is. -/
lemma settle_onlyOperands (h : reading.settle = .ok { found }) :
    { reading with onlyOperands := true }.settle = .ok { found, onlyOperands := true } := by
  obtain ⟨before, pending, onlyOperands⟩ := reading
  cases pending with
  | none =>
      cases h
      rfl
  | some option =>
      simp only [settle, bind, Except.bind] at h ⊢
      cases hgive : before.give option.1 option.2 with
      | error refusal => simp [hgive] at h
      | ok next =>
          rw [hgive] at h
          cases h
          rfl

/-- **A word behind two dashes** is the operand, whatever it is. -/
lemma steps_operand (h : Amounts reading found) (hfree : found.operand = none)
    (htakes : scope.takesOperand = true) (word : String) :
    reading.steps scope ["--", word]
      = .ok { found := { found with operand := some word }, onlyOperands := true } := by
  have hmark : reading.step scope "--" = .ok { reading with onlyOperands := true } := by
    have hword : Argument.ofWord "--" = .separator := by decide
    simp only [step, h.isOpen, hword, Bool.false_eq_true, if_false]
  have hnone : reading.found.operand = none := h.operand.trans hfree
  rw [steps, List.foldlM_cons, hmark]
  refine (steps_singleton word).trans ?_
  rw [step, if_pos rfl, operand, if_pos ⟨htakes, by simp [hnone]⟩, settle_onlyOperands h.settled]
  rfl

end Reading

/-! ## Reading a line -/

namespace Invocation

open Reading

variable {before behind : List Spelled} {outer inner : Found}

/-- What is found behind a command. -/
lemma steps_behind {name : CommandName} (hbehind : Gives (.command name) behind inner)
    {operand? : Option String}
    (hplace : operand?.isSome = true → (Scope.command name).takesOperand = true) :
    ∃ reading settled, Reading.steps (.command name) {}
        (behind.flatMap Spelled.words ++ operandWords operand?) = .ok reading
      ∧ reading.settle = .ok settled ∧ settled.found = { inner with operand := operand? } := by
  obtain ⟨reading, hpasses, hreading⟩ :=
    passesBy_spelled (.of_found {}) hbehind.suits hbehind.adds
  have hfree : inner.operand = none := hbehind.adds.operand
  rw [steps_append, hpasses.steps]
  cases operand? with
  | none => exact ⟨reading, { found := inner }, rfl, hreading.settled, by rw [← hfree]⟩
  | some word => exact ⟨_, _, steps_operand hreading hfree (hplace rfl) word, rfl, rfl⟩

lemma ofWords_alone (hbefore : Gives .root before outer) :
    ofWords (SpelledLine.alone before).words
      = .ok { config := outer.config, verbosity := verbosityOf outer.verbose } := by
  obtain ⟨reading, hpasses, hreading⟩ :=
    passesBy_spelled (.of_found {}) hbefore.suits hbefore.adds
  have hread := hpasses.toCommand rfl []
  rw [List.append_nil] at hread
  rw [ofWords, SpelledLine.words, hread]
  show (reading.settle >>= _) = _
  rw [hreading.settled]
  rfl

/-- **Each global option means what was said behind the command**, if anything was. -/
lemma ofWords_command_line {command : Command} {config : Option String} {verbose : Option ℕ}
    (hbefore : Gives .root before outer)
    (hbehind : Gives (.command command.name) behind { command.options with config, verbose }) :
    ofWords (SpelledLine.command before command.name behind command.operand?).words
      = .ok { config := config.or outer.config
              verbosity := verbosityOf (verbose.or outer.verbose)
              command? := some command } := by
  obtain ⟨reading, hpasses, hreading⟩ :=
    passesBy_spelled (.of_found {}) hbefore.suits hbefore.adds
  obtain ⟨last, settled, hsteps, hsettled, hfound⟩ := steps_behind hbehind command.takesOperand
  have hread := (hpasses.toCommand rfl _).trans
    (toCommand_command hreading.isOpen hreading.answered command.name
      (behind.flatMap Spelled.words ++ operandWords command.operand?))
  have hcommand : command.name.command settled.found = .ok command := by
    rw [hfound]
    exact command.command_options config verbose
  rw [ofWords, SpelledLine.words, hread]
  simp only [bind, Except.bind, hsteps, hsettled, hcommand, hreading.settled]
  rw [hfound]
  rfl

lemma verbosityOf_globals (invocation : Invocation) :
    verbosityOf invocation.globals.verbose = invocation.verbosity := by
  have hle : invocation.verbosity.toNat ≤ 255 := by
    have hlt := invocation.verbosity.toNat_lt
    omega
  rw [globals, verbosityOf_globalFound, Nat.min_eq_right hle, UInt8.ofNat_toNat]

/-- A line that means an invocation is read as this invocation. -/
lemma ofWords_of_spells {invocation : Invocation} {placement : Placement} {line : SpelledLine}
    (h : Spells invocation placement line) : ofWords line.words = .ok invocation := by
  have hverbosity := invocation.verbosityOf_globals
  cases h with
  | alone hnone hbefore =>
      rw [ofWords_alone hbefore, hverbosity, ← hnone]
      rfl
  | @command _ command _ _ hsome hbefore hbehind =>
      cases placement with
      | before =>
          rw [inner, command.options_eq] at hbehind
          rw [ofWords_command_line hbefore hbehind, Option.none_or, Option.none_or]
          show Except.ok { invocation with verbosity := _, command? := _ } = _
          rw [outer, hverbosity, ← hsome]
      | behind =>
          rw [ofWords_command_line hbefore hbehind]
          show Except.ok { invocation with config := _, verbosity := _, command? := _ } = _
          rw [outer, Option.or_none, Option.or_none, hverbosity, ← hsome]
          rfl

end Invocation

/-! ## Spelling an invocation -/

lemma count?_repr (cap : UInt64) : Text.count? cap.toNat.repr = some cap := by
  have hword : cap.toNat.repr.toList = Nat.toDigits 10 cap.toNat := Nat.toList_repr
  have hdigits : ∀ c ∈ Nat.toDigits 10 cap.toNat, c.isDigit = true :=
    fun c hc => Nat.isDigit_of_mem_toDigits (by decide) (by decide) hc
  have hplus : Text.withoutPlus (Nat.toDigits 10 cap.toNat) = Nat.toDigits 10 cap.toNat := by
    rw [Text.withoutPlus]
    intro rest hcons
    exact absurd (hdigits '+' (by simp [hcons])) (by decide)
  have hvalue : Text.digitsValue (Nat.toDigits 10 cap.toNat) = cap.toNat := by
    have hfold := Nat.ofDigitChars_ten_toDigits (n := cap.toNat)
    rw [Nat.ofDigitChars_eq_foldl] at hfold
    simpa only [Text.digitsValue, Nat.mul_comm] using hfold
  have hbound : cap.toNat < Text.countBound := cap.toNat_lt
  simp only [Text.count?, hword, hplus, hvalue]
  rw [if_pos ⟨Nat.toDigits_ne_nil, List.all_eq_true.mpr hdigits, hbound⟩, UInt64.ofNat_toNat]

/-- Global options: the style file, and the flag for more log output so many times. -/
def globalSpelled (config : Option String) (times : ℕ) : List Spelled :=
  (config.map (.valued .config .longAttached)).toList ++ List.replicate times (.cluster 0)

/-- The flag of the branch policy, if it is given. -/
def labelBranchSpelled (labelBranch : Bool) : List Spelled :=
  if labelBranch then [.labelBranch] else []

/-- The options of a session. -/
def interactiveSpelled (quitWord count : Option String) (labelBranch : Bool) : List Spelled :=
  (quitWord.map (.valued .quit .longAttached)).toList
    ++ (count.map (.valued .count .longAttached)).toList ++ labelBranchSpelled labelBranch

/-- The options of a command. -/
def Command.spelled : Command → List Spelled
  | region _ labelBranch | line _ labelBranch => labelBranchSpelled labelBranch
  | interactive quitWord cap labelBranch =>
    interactiveSpelled quitWord (cap.map fun cap => cap.toNat.repr) labelBranch
  | header _ | styles | version => []

lemma gives_nothing (scope : Scope) : Gives scope [] {} :=
  ⟨fun _ hoption => absurd hoption List.not_mem_nil, by decide⟩

lemma timesOf_replicate (times : ℕ) :
    Spelled.timesOf (List.replicate times (.cluster 0)) = times := by
  induction times with
  | zero => rfl
  | succ times ih => rw [List.replicate_succ, Spelled.timesOf, ih, Spelled.times, Nat.add_comm]

lemma suits_globalSpelled (scope : Scope) (config : Option String) (times : ℕ) :
    ∀ option ∈ globalSpelled config times, option.Suits scope := by
  intro option hoption
  rcases List.mem_append.mp hoption with hconfig | hverbose
  · obtain ⟨path, -, rfl⟩ := Option.map_eq_some_iff.mp (Option.mem_toList.mp hconfig)
    exact ⟨scope.config_mem, rfl, trivial⟩
  · rw [List.eq_of_mem_replicate hverbose]
    trivial

lemma adds_globalSpelled {before : Found} (hconfig : before.config = none)
    (hverbose : before.verbose = none) {config : Option String} (hnonempty : config ≠ some "")
    (times : ℕ) :
    Adds before (globalSpelled config times)
      { before with config, verbose := (globalFound config times).verbose } := by
  constructor
  case nonempty => exact hnonempty
  case operand => rfl
  all_goals
    cases config <;>
      simp [globalSpelled, Spelled.value?, Spelled.timesOf, Spelled.times, timesOf_replicate,
        List.filterMap_replicate, List.count_replicate, hconfig, hverbose, globalFound, raised]

lemma gives_globalSpelled (scope : Scope) {config : Option String} (hnonempty : config ≠ some "")
    (times : ℕ) : Gives scope (globalSpelled config times) (globalFound config times) :=
  ⟨suits_globalSpelled scope config times, adds_globalSpelled rfl rfl hnonempty times⟩

/-- The flag is an option of each scope that has it. -/
lemma gives_labelBranchSpelled {scope : Scope} (hmem : Switch.labelBranch ∈ scope.switches)
    (labelBranch : Bool) : Gives scope (labelBranchSpelled labelBranch) { labelBranch } := by
  cases labelBranch with
  | false => exact gives_nothing scope
  | true => exact ⟨List.forall_mem_singleton.mpr hmem, by decide⟩

/-- The word for the cap may be any that is read as the number. -/
lemma gives_interactiveSpelled {count : Option String} {cap : Option UInt64}
    (hcount : count.map Text.count? = cap.map some) (quitWord : Option String)
    (labelBranch : Bool) :
    Gives (.command .interactive) (interactiveSpelled quitWord count labelBranch)
      { quitWord, cap, labelBranch } := by
  have hflag : Gives (.command .interactive) (labelBranchSpelled labelBranch) { labelBranch } :=
    gives_labelBranchSpelled (by decide) labelBranch
  refine ⟨?_, ?_⟩
  · intro option hoption
    simp only [interactiveSpelled, List.mem_append, Option.mem_toList] at hoption
    rcases hoption with (hquit | hcap) | hmem
    · obtain ⟨word, -, rfl⟩ := Option.map_eq_some_iff.mp hquit
      exact ⟨by decide, rfl, trivial⟩
    · obtain ⟨number, -, rfl⟩ := Option.map_eq_some_iff.mp hcap
      exact ⟨by decide, rfl, trivial⟩
    · exact hflag.suits option hmem
  · constructor
    case cap =>
      show _ = (cap.map some).toList
      rw [← hcount]
      cases quitWord <;> cases count <;> cases labelBranch <;>
        simp [interactiveSpelled, labelBranchSpelled, Spelled.value?]
    all_goals
      cases quitWord <;> cases count <;> cases labelBranch <;>
        simp [interactiveSpelled, labelBranchSpelled, Spelled.value?, Spelled.timesOf,
          Spelled.times, raised]

lemma gives_spelled (command : Command) :
    Gives (.command command.name) command.spelled command.options := by
  cases command with
  | header _ | styles | version => exact gives_nothing _
  | region _ labelBranch | line _ labelBranch =>
      exact gives_labelBranchSpelled List.mem_cons_self labelBranch
  | interactive quitWord cap labelBranch =>
      refine gives_interactiveSpelled ?_ quitWord labelBranch
      rw [Option.map_map]
      exact Option.map_congr fun cap _ => count?_repr cap

/-- Every invocation has a spelling in both placements, if it has a command. -/
lemma exists_spells {invocation : Invocation} (hconfig : invocation.config ≠ some "")
    {placement : Placement} (hplacement : placement = .behind → invocation.command?.isSome = true) :
    ∃ line, Spells invocation placement line := by
  have hglobals : Gives .root (globalSpelled invocation.config invocation.verbosity.toNat)
      invocation.globals := gives_globalSpelled .root hconfig _
  cases hcommand : invocation.command? with
  | none =>
      obtain rfl : placement = .before := by
        cases placement with
        | before => rfl
        | behind => simp [hcommand] at hplacement
      exact ⟨_, .alone hcommand hglobals⟩
  | some command =>
      have hown := gives_spelled command
      cases placement with
      | before => exact ⟨_, .command hcommand hglobals hown⟩
      | behind =>
          have hinner : Adds command.options
              (globalSpelled invocation.config invocation.verbosity.toNat)
              (invocation.inner command .behind) := by
            refine adds_globalSpelled ?_ ?_ hconfig _ <;> cases command <;> rfl
          exact ⟨_, .command hcommand (gives_nothing .root)
            ⟨List.forall_mem_append.mpr ⟨hown.suits, suits_globalSpelled _ _ _⟩,
              hown.adds.append hinner⟩⟩

/-! ## The round trip -/

namespace Invocation

/-- The order of the options makes no difference. -/
lemma ofWords_perm {command : Command} {before before' behind behind' : List Spelled}
    {outer : Found} {config : Option String} {verbose : Option ℕ}
    (hbefore : Gives .root before outer)
    (hbehind : Gives (.command command.name) behind { command.options with config, verbose })
    (hpermBefore : before'.Perm before) (hpermBehind : behind'.Perm behind) :
    ofWords (SpelledLine.command before' command.name behind' command.operand?).words
      = ofWords (SpelledLine.command before command.name behind command.operand?).words := by
  rw [ofWords_command_line hbefore hbehind,
    ofWords_command_line (hbefore.perm hpermBefore) (hbehind.perm hpermBehind)]

/-- **Every invocation can be written on the command line, and all its spellings mean the same.**

1. A line that spells an invocation is read as exactly this one.
2. Every invocation whose style file has a name is spelled by some line, with its global options
   before the command and also, where there is a command, with these behind it.
3. Where there are global options in both places, each of the two means what was said behind the
   command, and only if nothing was said there what was said before it.
4. The options before the command, and those behind it, may be put in any order. -/
theorem ofWords_spelled :
    (∀ (invocation : Invocation) (placement : Placement) (line : SpelledLine),
      Spells invocation placement line → ofWords line.words = .ok invocation)
    ∧ (∀ (invocation : Invocation) (placement : Placement), invocation.config ≠ some "" →
      (placement = .behind → invocation.command?.isSome = true) →
        ∃ line, Spells invocation placement line)
    ∧ (∀ (command : Command) (before behind : List Spelled) (outer : Found)
        (config : Option String) (verbose : Option ℕ),
      Gives .root before outer →
      Gives (.command command.name) behind { command.options with config, verbose } →
        ofWords (SpelledLine.command before command.name behind command.operand?).words
          = .ok { config := config.or outer.config
                  verbosity := verbosityOf (verbose.or outer.verbose)
                  command? := some command })
    ∧ ∀ (command : Command) (before before' behind behind' : List Spelled) (outer : Found)
        (config : Option String) (verbose : Option ℕ),
      Gives .root before outer →
      Gives (.command command.name) behind { command.options with config, verbose } →
      before'.Perm before → behind'.Perm behind →
        ofWords (SpelledLine.command before' command.name behind' command.operand?).words
          = ofWords (SpelledLine.command before command.name behind command.operand?).words :=
  ⟨fun _ _ _ hspells => ofWords_of_spells hspells,
    fun _ _ hconfig hplacement => exists_spells hconfig hplacement,
    fun _ _ _ _ _ _ hbefore hbehind => ofWords_command_line hbefore hbehind,
    fun _ _ _ _ _ _ _ _ hbefore hbehind hpermBefore hpermBehind =>
      ofWords_perm hbefore hbehind hpermBefore hpermBehind⟩

/-- A style file that is called like a command, a quit word that is the command itself, an attached
value that begins with an equals sign, and an operand that is the mark before it; and the same
options in another order. -/
theorem ofWords_spelled_of_hard_words :
    ofWords ["-vv", "--verbose", "-c", "header", "interactive", "-q", "interactive", "--count=3",
        "--label-branch"]
      = .ok { config := some "header", verbosity := 3,
              command? := some (.interactive (some "interactive") (some 3) true) }
    ∧ ofWords ["-v", "--config", "help", "region", "-vv", "--label-branch", "-c==x", "--", "--"]
      = .ok { config := some "=x", verbosity := 2, command? := some (.region (some "--") true) }
    ∧ ofWords ["--config", "help", "-v", "region", "-c==x", "--label-branch", "-vv", "--", "--"]
      = ofWords ["-v", "--config", "help", "region", "-vv", "--label-branch", "-c==x", "--", "--"]
    ∧ ∃ line, Spells { config := some "-", verbosity := 255, command? := some (.header (some "")) }
        .behind line := by
  obtain ⟨hread, hexists, hboth, hperm⟩ := ofWords_spelled
  have hbefore : Gives .root [.cluster 0, .valued .config .longSeparate "help"]
      { config := some "help", verbose := some 1 } := by decide
  have hbehind : Gives (.command .region)
      [.cluster 1, .labelBranch, .valued .config .shortAttached "=x"]
      { (Command.region (some "--") true).options with
        config := some "=x", verbose := some 2 } := by decide
  have hwords : (SpelledLine.command [.cluster 0, .valued .config .longSeparate "help"] .region
      [.cluster 1, .labelBranch, .valued .config .shortAttached "=x"] (some "--")).words
      = ["-v", "--config", "help", "region", "-vv", "--label-branch", "-c==x", "--", "--"] := by
    decide
  have hreordered : (SpelledLine.command [.valued .config .longSeparate "help", .cluster 0] .region
      [.valued .config .shortAttached "=x", .labelBranch, .cluster 1] (some "--")).words
      = ["--config", "help", "-v", "region", "-c==x", "--label-branch", "-vv", "--", "--"] := by
    decide
  have hspells := @Spells.command
    { config := some "header", verbosity := 3,
      command? := some (.interactive (some "interactive") (some 3) true) } .before
    (.interactive (some "interactive") (some 3) true)
    [.cluster 1, .verbose, .valued .config .shortSeparate "header"]
    [.valued .quit .shortSeparate "interactive", .valued .count .longAttached "3", .labelBranch]
    rfl (by decide) (by decide)
  refine ⟨hread _ _ _ hspells, ?_, ?_, hexists _ _ (by decide) (by decide)⟩
  · rw [← hwords]
    exact hboth (.region (some "--") true) _ _ _ _ _ hbefore hbehind
  · rw [← hwords, ← hreordered]
    exact hperm (.region (some "--") true) _ _ _ _ _ _ _ hbefore hbehind
      (List.reverse_perm [_, _]) (List.reverse_perm [_, _, _])

end Invocation

end CommentSeparator
