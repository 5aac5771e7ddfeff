import CommentSeparator.Proofs.CommandLine.Words

/-!
# Options as they are spelled

An option can be spelled in several ways: by its name or its letter, with its value attached or in a
word of its own, and the flag for more log output also in clusters.  `Spelled` is one option in one
of these ways.

**An option takes effect late.**  Where its value is a word of its own, the option is still pending
behind it, and so one thing can be found in several readings.  `Amounts` says what a reading comes
to, once the pending option takes effect, and this is what every spelling of an option changes in
the same way (`passesBy_option`).  From this a run over any list of them follows by induction
(`passesBy_spelled`), before the command as well as behind it: `PassesBy` holds of both.
-/

namespace CommentSeparator

/-! ## Spellings -/

/-- The word of an option by its name. -/
def Switch.longWord (switch : Switch) : String :=
  "--" ++ switch.long

/-- The word of an option by its letter. -/
def Switch.shortWord (switch : Switch) : String :=
  "-" ++ String.ofList switch.short?.toList

/-- How an option is written with its value: by its name or its letter, with an equals sign in
between or with the value in the next word. -/
inductive ValueForm where
  | longAttached
  | shortAttached
  | longSeparate
  | shortSeparate
  deriving DecidableEq, Repr

namespace ValueForm

def words (switch : Switch) (value : String) : ValueForm → List String
  | longAttached => [attachedWord switch value]
  | shortAttached => [switch.shortWord ++ "=" ++ value]
  | longSeparate => [switch.longWord, value]
  | shortSeparate => [switch.shortWord, value]

/-- A word of its own must not look like an option; attached, a value may be any text. -/
def Suits (value : String) : ValueForm → Prop
  | longAttached | shortAttached => True
  | longSeparate | shortSeparate => value.toList.head? ≠ some '-'

instance (value : String) : (form : ValueForm) → Decidable (form.Suits value)
  | longAttached | shortAttached => instDecidableTrue
  | longSeparate | shortSeparate => inferInstanceAs (Decidable (value.toList.head? ≠ some '-'))

end ValueForm

/-- One option as it is spelled. -/
inductive Spelled where
  /-- A dash and a `v` for each time, one at least. -/
  | cluster (more : ℕ)
  | verbose
  | valued (switch : Switch) (form : ValueForm) (value : String)
  | labelBranch
  deriving DecidableEq, Repr

namespace Spelled

/-- The words of an option. -/
def words : Spelled → List String
  | cluster more => [String.ofList ('-' :: List.replicate (more + 1) 'v')]
  | verbose => [Switch.verbose.longWord]
  | valued switch form value => form.words switch value
  | labelBranch => [Switch.labelBranch.longWord]

/-- Can an option be spelled like this in a scope? -/
def Suits (scope : Scope) : Spelled → Prop
  | cluster _ | verbose => True
  | valued switch form value =>
    switch ∈ scope.switches ∧ switch.takesValue = true ∧ form.Suits value
  | labelBranch => Switch.labelBranch ∈ scope.switches

instance (scope : Scope) : (option : Spelled) → Decidable (option.Suits scope)
  | cluster _ | verbose => instDecidableTrue
  | valued switch form value =>
    inferInstanceAs
      (Decidable (switch ∈ scope.switches ∧ switch.takesValue = true ∧ form.Suits value))
  | labelBranch => inferInstanceAs (Decidable (Switch.labelBranch ∈ scope.switches))

/-- The value that is given to a certain option. -/
def value? (switch : Switch) : Spelled → Option String
  | valued other _ value => if other = switch then some value else none
  | _ => none

/-- How often more log output is asked for. -/
def times : Spelled → ℕ
  | cluster more => more + 1
  | verbose => 1
  | _ => 0

/-- How often all of some options ask for it. -/
def timesOf : List Spelled → ℕ
  | [] => 0
  | option :: more => option.times + timesOf more

@[simp]
lemma timesOf_append (spelled more : List Spelled) :
    timesOf (spelled ++ more) = timesOf spelled + timesOf more := by
  induction spelled with
  | nil => rw [List.nil_append, timesOf, Nat.zero_add]
  | cons option spelled ih => rw [List.cons_append, timesOf, timesOf, ih, Nat.add_assoc]

lemma timesOf_perm {spelled reordered : List Spelled} (hperm : reordered.Perm spelled) :
    timesOf reordered = timesOf spelled := by
  induction hperm with
  | nil => rfl
  | cons option _ ih => rw [timesOf, timesOf, ih]
  | swap option other more =>
      simp only [timesOf]
      omega
  | trans _ _ ih ih' => exact ih.trans ih'

end Spelled

/-! ## What is given -/

/-- More log output, so many times more. -/
def raised (times? : Option ℕ) (times : ℕ) : Option ℕ :=
  if times = 0 then times? else some (times?.getD 0 + times)

/-- What is found behind some options, in addition to what was found before.  In all, an option with
a value has been given once at most, and the flag for the branch policy, too. -/
@[mk_iff]
structure Adds (before : Found) (spelled : List Spelled) (found : Found) : Prop where
  config : before.config.toList ++ spelled.filterMap (Spelled.value? .config) = found.config.toList
  nonempty : found.config ≠ some ""
  quitWord :
    before.quitWord.toList ++ spelled.filterMap (Spelled.value? .quit) = found.quitWord.toList
  cap : (before.cap.map some).toList
      ++ (spelled.filterMap (Spelled.value? .count)).map Text.count? = (found.cap.map some).toList
  labelBranch : before.labelBranch.toNat + spelled.count .labelBranch = found.labelBranch.toNat
  verbose : found.verbose = raised before.verbose (Spelled.timesOf spelled)
  operand : found.operand = before.operand

instance (before : Found) (spelled : List Spelled) (found : Found) :
    Decidable (Adds before spelled found) :=
  decidable_of_iff _ (adds_iff before spelled found).symm

/-- What is given by options in a scope, whatever their order and the way they are spelled. -/
@[mk_iff]
structure Gives (scope : Scope) (spelled : List Spelled) (found : Found) : Prop where
  suits : ∀ option ∈ spelled, option.Suits scope
  adds : Adds {} spelled found

instance (scope : Scope) (spelled : List Spelled) (found : Found) :
    Decidable (Gives scope spelled found) :=
  decidable_of_iff _ (gives_iff scope spelled found).symm

/-! ## One word -/

namespace Scope

variable {scope : Scope} {switch : Switch}

lemma long?_long (h : switch ∈ scope.switches) : scope.long? switch.long = some switch := by
  cases scope with
  | root => cases switch <;> revert h <;> decide
  | command name => cases name <;> cases switch <;> revert h <;> decide

lemma short?_short {letter : Char} (h : switch ∈ scope.switches)
    (hletter : switch.short? = some letter) : scope.short? letter = some switch := by
  have hsome : switch.short?.isSome = true := by rw [hletter]; rfl
  rw [short?, ← hletter]
  clear hletter
  cases scope with
  | root => cases switch <;> revert h hsome <;> decide
  | command name => cases name <;> cases switch <;> revert h hsome <;> decide

lemma config_mem (scope : Scope) : Switch.config ∈ scope.switches := by
  cases scope with
  | root => decide
  | command name => cases name <;> decide

lemma verbose_mem (scope : Scope) : Switch.verbose ∈ scope.switches := by
  cases scope with
  | root => decide
  | command name => cases name <;> decide

end Scope

/-- Every option with a value has a letter, and no letter is a dash. -/
lemma Switch.exists_short {switch : Switch} (htakes : switch.takesValue = true) :
    ∃ letter, switch.short? = some letter ∧ letter ≠ '-' := by
  cases switch with
  | config => exact ⟨'c', rfl, by decide⟩
  | quit => exact ⟨'q', rfl, by decide⟩
  | count => exact ⟨'n', rfl, by decide⟩
  | verbose | help | labelBranch => exact absurd htakes (by decide)

namespace Argument

lemma ofWord_longWord (switch : Switch) : ofWord switch.longWord = .long switch.long none := by
  cases switch <;> decide

/-- A letter, with whatever stands behind it. -/
lemma ofWord_letter {letter : Char} (hletter : letter ≠ '-') {word : String} {rest : List Char}
    (hword : word.toList = '-' :: letter :: rest) : ofWord word = .short (letter :: rest) := by
  rw [ofWord, hword]
  split <;> simp_all

lemma ofWord_plain {word : String} (hword : word.toList.head? ≠ some '-') :
    ofWord word = .plain := by
  rw [ofWord]
  split <;> simp_all

end Argument

lemma Found.operand_give {found next : Found} {switch : Switch} {value : String}
    (h : found.give switch (some value) = .ok next) : next.operand = found.operand := by
  cases switch <;> simp only [give] at h
  case config | quit =>
    split_ifs at h
    cases h
    rfl
  case count =>
    split_ifs at h
    split at h
    · cases h
      rfl
    · cases h
  case verbose | help | labelBranch =>
    cases h
    rfl

namespace Reading

variable {reading : Reading} {scope : Scope} {switch : Switch}

section Words

variable (hopen : reading.onlyOperands = false) (hswitch : switch ∈ scope.switches)
include hopen hswitch

lemma step_longWord (htakes : switch.takesValue = true) :
    reading.step scope switch.longWord = reading.option switch none := by
  simp only [step, hopen, Argument.ofWord_longWord, long, Scope.long?_long hswitch, htakes, if_true,
    Bool.false_eq_true, if_false]

lemma step_flagWord (htakes : switch.takesValue = false) :
    reading.step scope switch.longWord = reading.flag switch := by
  simp only [step, hopen, Argument.ofWord_longWord, long, Scope.long?_long hswitch, htakes,
    Option.isSome_none, Bool.false_eq_true, if_false]

lemma step_longAttached (htakes : switch.takesValue = true) (value : String) :
    reading.step scope (attachedWord switch value) = reading.option switch (some value) := by
  simp only [step, hopen, Argument.ofWord_attachedWord, long, Scope.long?_long hswitch, htakes,
    if_true, Bool.false_eq_true, if_false]

lemma step_shortWord (htakes : switch.takesValue = true) :
    reading.step scope switch.shortWord = reading.option switch none := by
  obtain ⟨letter, hletter, hdash⟩ := Switch.exists_short htakes
  have hword : Argument.ofWord switch.shortWord = .short [letter] :=
    Argument.ofWord_letter hdash (by simp [Switch.shortWord, hletter])
  simp only [step, hopen, hword, cluster, Scope.short?_short hswitch hletter, htakes, if_true,
    attached?, Bool.false_eq_true, if_false]

lemma step_shortAttached (htakes : switch.takesValue = true) (value : String) :
    reading.step scope (switch.shortWord ++ "=" ++ value) = reading.option switch (some value) := by
  obtain ⟨letter, hletter, hdash⟩ := Switch.exists_short htakes
  have hword : Argument.ofWord (switch.shortWord ++ "=" ++ value)
      = .short (letter :: '=' :: value.toList) :=
    Argument.ofWord_letter hdash (by simp [Switch.shortWord, hletter])
  simp only [step, hopen, hword, cluster, Scope.short?_short hswitch hletter, htakes, if_true,
    attached?, String.ofList_toList, Bool.false_eq_true, if_false]

end Words

/-- A word without a dash in front is the value of the option that is waiting for one. -/
lemma step_value (hopen : reading.onlyOperands = false)
    (hpending : reading.pending = some (switch, none)) {value : String}
    (hvalue : value.toList.head? ≠ some '-') :
    reading.step scope value = .ok { reading with pending := some (switch, some value) } := by
  simp only [step, hopen, Argument.ofWord_plain hvalue, hpending, Bool.false_eq_true, if_false]

/-! ## What a reading comes to -/

/-- What a reading comes to between two options: no value is owed, and the pending option, if there
is one, takes effect. -/
structure Amounts (reading : Reading) (found : Found) : Prop where
  isOpen : reading.onlyOperands = false
  answered : reading.awaiting = false
  settled : reading.settle = .ok { found }
  /-- No option is an operand, not even the pending one. -/
  operand : reading.found.operand = found.operand

namespace Amounts

variable {found next : Found} {value : String}

/-- Nothing is pending. -/
lemma of_found (found : Found) : Amounts { found } found := ⟨rfl, rfl, rfl, rfl⟩

/-- An option with its value is pending. -/
lemma of_pending (hgive : found.give switch (some value) = .ok next) :
    Amounts { found, pending := some (switch, some value) } next := by
  refine ⟨rfl, rfl, ?_, (Found.operand_give hgive).symm⟩
  simp only [settle, hgive]
  rfl

lemma option_some (h : Amounts reading found) (hgive : found.give switch (some value) = .ok next) :
    reading.option switch (some value) = .ok { found := next } := by
  simp only [option, h.settled, bind, Except.bind, hgive]
  rfl

lemma option_none (h : Amounts reading found) (switch : Switch) :
    reading.option switch none = .ok { found, pending := some (switch, none) } := by
  simp only [option, h.settled, bind, Except.bind]
  rfl

lemma flag (h : Amounts reading found) (hraise : found.raise switch = .ok next) :
    reading.flag switch = .ok { found := next } := by
  simp only [Reading.flag, h.settled, bind, Except.bind, hraise]
  rfl

end Amounts

/-! ## Words pass by -/

/-- Words are read in a scope, and before the command none of them is taken for one. -/
structure PassesBy (scope : Scope) (reading : Reading) (words : List String) (next : Reading) :
    Prop where
  steps : reading.steps scope words = .ok next
  toCommand : scope = .root → ∀ rest, reading.toCommand (words ++ rest) = next.toCommand rest

namespace PassesBy

variable {next last : Reading} {word : String} {words more : List String}

lemma nil : PassesBy scope reading [] reading := ⟨rfl, fun _ _ => rfl⟩

lemma append (h : PassesBy scope reading words next) (h' : PassesBy scope next more last) :
    PassesBy scope reading (words ++ more) last := by
  constructor
  · rw [steps_append, h.steps]
    exact h'.steps
  · intro hroot rest
    rw [List.append_assoc, h.toCommand hroot, h'.toCommand hroot]

/-- A word with a dash in front. -/
lemma of_dash (hopen : reading.onlyOperands = false) (hawaiting : reading.awaiting = false)
    (hword : word.toList.head? = some '-') (hstep : reading.step scope word = .ok next) :
    PassesBy scope reading [word] next := by
  refine ⟨(steps_singleton word).trans hstep, ?_⟩
  rintro rfl rest
  exact toCommand_of_dash hopen hawaiting hword hstep rest

/-- A word that an option waits for. -/
lemma of_awaiting (hawaiting : reading.awaiting = true)
    (hstep : reading.step scope word = .ok next) : PassesBy scope reading [word] next := by
  refine ⟨(steps_singleton word).trans hstep, ?_⟩
  rintro rfl rest
  rw [List.singleton_append, Reading.toCommand, if_pos (.inr hawaiting), hstep]
  rfl

end PassesBy

end Reading

namespace Switch

lemma head_longWord (switch : Switch) : switch.longWord.toList.head? = some '-' := by
  simp [longWord]

lemma head_shortWord (switch : Switch) : switch.shortWord.toList.head? = some '-' := by
  simp [shortWord]

end Switch

open Reading (Amounts PassesBy)

variable {reading : Reading} {scope : Scope} {before found : Found}

/-- **An option with a value**, in each of its forms. -/
lemma passesBy_valued (h : Amounts reading before) {switch : Switch} {form : ValueForm}
    {value : String} (hswitch : switch ∈ scope.switches) (htakes : switch.takesValue = true)
    (hform : form.Suits value) (hgive : before.give switch (some value) = .ok found) :
    ∃ next, PassesBy scope reading (form.words switch value) next ∧ Amounts next found := by
  -- a value in the next word leaves the option pending
  have hseparate : ∀ word, word.toList.head? = some '-' → value.toList.head? ≠ some '-' →
      reading.step scope word = .ok { found := before, pending := some (switch, none) } →
      PassesBy scope reading [word, value]
        { found := before, pending := some (switch, some value) } := by
    intro word hword hvalue hstep
    have hfirst := PassesBy.of_dash h.isOpen h.answered hword hstep
    exact hfirst.append (.of_awaiting rfl (Reading.step_value rfl rfl hvalue))
  cases form with
  | longAttached =>
      have hstep := Reading.step_longAttached h.isOpen hswitch htakes value
      rw [h.option_some hgive] at hstep
      exact ⟨_, .of_dash h.isOpen h.answered (by simp [attachedWord]) hstep, .of_found found⟩
  | shortAttached =>
      have hstep := Reading.step_shortAttached h.isOpen hswitch htakes value
      rw [h.option_some hgive] at hstep
      exact ⟨_, .of_dash h.isOpen h.answered (by simp [Switch.shortWord]) hstep, .of_found found⟩
  | longSeparate =>
      have hstep := Reading.step_longWord h.isOpen hswitch htakes
      rw [h.option_none] at hstep
      exact ⟨_, hseparate _ switch.head_longWord hform hstep, .of_pending hgive⟩
  | shortSeparate =>
      have hstep := Reading.step_shortWord h.isOpen hswitch htakes
      rw [h.option_none] at hstep
      exact ⟨_, hseparate _ switch.head_shortWord hform hstep, .of_pending hgive⟩

/-- A flag by its name. -/
lemma passesBy_flag (h : Amounts reading before) {switch : Switch}
    (hswitch : switch ∈ scope.switches) (htakes : switch.takesValue = false)
    (hraise : before.raise switch = .ok found) :
    ∃ next, PassesBy scope reading [switch.longWord] next ∧ Amounts next found := by
  have hstep := Reading.step_flagWord h.isOpen hswitch htakes
  rw [h.flag hraise] at hstep
  exact ⟨_, .of_dash h.isOpen h.answered switch.head_longWord hstep, .of_found found⟩

/-! ## More log output -/

@[simp]
lemma raised_zero (times? : Option ℕ) : raised times? 0 = times? := rfl

lemma raised_add (times? : Option ℕ) (times more : ℕ) :
    raised times? (times + more) = raised (raised times? times) more := by
  cases more with
  | zero => rfl
  | succ more =>
      cases times with
      | zero => simp [raised]
      | succ times =>
          rw [raised, raised, raised, if_neg (by omega), if_neg (by omega), if_neg (by omega),
            Option.getD_some]
          exact congrArg some (by omega)

lemma cluster_replicate (scope : Scope) (h : Amounts reading before) (times : ℕ) :
    ∃ next, reading.cluster scope (List.replicate times 'v') = .ok next
      ∧ Amounts next { before with verbose := raised before.verbose times } := by
  induction times generalizing reading before with
  | zero => exact ⟨reading, rfl, h⟩
  | succ times ih =>
      have hshort : scope.short? 'v' = some .verbose := Scope.short?_short scope.verbose_mem rfl
      have hraise : before.raise .verbose
          = .ok { before with verbose := raised before.verbose 1 } := rfl
      obtain ⟨next, hcluster, hnext⟩ :=
        ih (.of_found { before with verbose := raised before.verbose 1 })
      refine ⟨next, ?_, ?_⟩
      · rw [List.replicate_succ, Reading.cluster, hshort]
        simp only [Switch.takesValue, Bool.false_eq_true, if_false, h.flag hraise]
        exact hcluster
      · rwa [Nat.add_comm, raised_add]

lemma passesBy_cluster (h : Amounts reading before) (more : ℕ) :
    ∃ next, PassesBy scope reading (Spelled.cluster more).words next
      ∧ Amounts next { before with verbose := raised before.verbose (more + 1) } := by
  obtain ⟨next, hcluster, hnext⟩ := cluster_replicate scope h (more + 1)
  have hword : Argument.ofWord (String.ofList ('-' :: List.replicate (more + 1) 'v'))
      = .short (List.replicate (more + 1) 'v') :=
    Argument.ofWord_letter (by decide) String.toList_ofList
  refine ⟨next, .of_dash h.isOpen h.answered (by simp) ?_, hnext⟩
  simp only [Reading.step, h.isOpen, hword, Bool.false_eq_true, if_false]
  exact hcluster

/-! ## One option, and all of them -/

lemma eq_of_toList {α : Type} {before found : Option α} (h : before.toList = found.toList) :
    before = found := by
  cases before <;> cases found <;> simp_all

/-- What is given once was not given before, and is not given again. -/
lemma eq_of_toList_append {α : Type} {before found : Option α} {value : α} {rest : List α}
    (h : before.toList ++ value :: rest = found.toList) :
    before = none ∧ found = some value ∧ rest = [] := by
  cases before with
  | some other => cases found <;> simp at h
  | none =>
      cases found with
      | none => simp at h
      | some found => simpa [eq_comm] using h

/-- A list with one element at most has one order only. -/
lemma eq_toList_of_perm {α : Type} {value? : Option α} {values : List α}
    (h : values.Perm value?.toList) : values = value?.toList := by
  cases value? with
  | none => exact h.eq_nil
  | some value => exact List.perm_singleton.mp h

namespace Adds

variable {spelled : List Spelled}

/-- The order of the options makes no difference. -/
lemma perm {reordered : List Spelled} (h : Adds before spelled found)
    (hperm : reordered.Perm spelled) : Adds before reordered found where
  config := eq_toList_of_perm (h.config ▸ (hperm.filterMap _).append_left _)
  nonempty := h.nonempty
  quitWord := eq_toList_of_perm (h.quitWord ▸ (hperm.filterMap _).append_left _)
  cap := eq_toList_of_perm (h.cap ▸ ((hperm.filterMap _).map _).append_left _)
  labelBranch := by rw [hperm.count_eq, h.labelBranch]
  verbose := by rw [Spelled.timesOf_perm hperm, h.verbose]
  operand := h.operand

/-- Options behind options add to what these have added. -/
lemma append {between : Found} {more : List Spelled} (h : Adds before spelled between)
    (hmore : Adds between more found) : Adds before (spelled ++ more) found where
  config := by rw [List.filterMap_append, ← List.append_assoc, h.config, hmore.config]
  nonempty := hmore.nonempty
  quitWord := by rw [List.filterMap_append, ← List.append_assoc, h.quitWord, hmore.quitWord]
  cap := by
    rw [List.filterMap_append, List.map_append, ← List.append_assoc, h.cap, hmore.cap]
  labelBranch := by rw [List.count_append, ← Nat.add_assoc, h.labelBranch, hmore.labelBranch]
  verbose := by rw [Spelled.timesOf_append, raised_add, ← h.verbose, hmore.verbose]
  operand := hmore.operand.trans h.operand

lemma eq_of_nil (h : Adds before [] found) : found = before := by
  obtain ⟨hconfig, -, hquit, hcap, hlabelBranch, hverbose, hoperand⟩ := h
  simp only [List.filterMap_nil, List.map_nil, List.append_nil, List.count_nil, Nat.add_zero,
    Spelled.timesOf, raised_zero] at hconfig hquit hcap hlabelBranch hverbose
  have hcap := Option.map_injective (fun _ _ => Option.some.inj) (eq_of_toList hcap)
  have hlabelBranch : before.labelBranch = found.labelBranch := by
    cases hold : before.labelBranch <;> cases hnew : found.labelBranch <;> simp_all
  have hconfig := eq_of_toList hconfig
  have hquit := eq_of_toList hquit
  cases before
  cases found
  simp_all

/-- **An option with a value takes effect** where it adds to what was found before, and the options
behind it add to that. -/
lemma give {switch : Switch} {form : ValueForm} {value : String}
    (h : Adds before (.valued switch form value :: spelled) found)
    (htakes : switch.takesValue = true) :
    ∃ between, before.give switch (some value) = .ok between ∧ Adds between spelled found := by
  obtain ⟨hconfig, hnonempty, hquit, hcap, hlabelBranch, hverbose, hoperand⟩ := h
  simp only [List.filterMap_cons, Spelled.value?, Spelled.timesOf, Spelled.times, Nat.zero_add,
    List.count_cons] at hconfig hquit hcap hlabelBranch hverbose
  cases switch with
  | config =>
      obtain ⟨hbefore, hfound, hrest⟩ := eq_of_toList_append hconfig
      have hvalue : value ≠ "" := by
        rintro rfl
        exact hnonempty hfound
      refine ⟨{ before with config := some value }, by simp [Found.give, hbefore, hvalue], ?_⟩
      exact ⟨by simp [hfound, hrest], hnonempty, hquit, hcap, hlabelBranch, hverbose, hoperand⟩
  | quit =>
      obtain ⟨hbefore, hfound, hrest⟩ := eq_of_toList_append hquit
      refine ⟨{ before with quitWord := some value }, by simp [Found.give, hbefore], ?_⟩
      exact ⟨hconfig, hnonempty, by simp [hfound, hrest], hcap, hlabelBranch, hverbose, hoperand⟩
  | count =>
      obtain ⟨hbefore, hfound, hrest⟩ := eq_of_toList_append hcap
      obtain ⟨cap, hfound, hvalue⟩ := Option.map_eq_some_iff.mp hfound
      rw [Option.map_eq_none_iff] at hbefore
      refine ⟨{ before with cap := some cap }, by simp [Found.give, hbefore, ← hvalue], ?_⟩
      exact ⟨hconfig, hnonempty, hquit, by simp [hfound, hrest], hlabelBranch, hverbose, hoperand⟩
  | verbose | help | labelBranch => exact absurd htakes (by decide)

/-- A flag for more log output takes effect. -/
lemma raise_verbose {option : Spelled} (h : Adds before (option :: spelled) found)
    (hoption : option = .verbose ∨ ∃ more, option = .cluster more) :
    Adds { before with verbose := raised before.verbose option.times } spelled found := by
  obtain ⟨hconfig, hnonempty, hquit, hcap, hlabelBranch, hverbose, hoperand⟩ := h
  rw [Spelled.timesOf, raised_add] at hverbose
  rcases hoption with rfl | ⟨more, rfl⟩ <;>
    exact ⟨hconfig, hnonempty, hquit, hcap, by simpa using hlabelBranch, hverbose, hoperand⟩

/-- The flag for the branch policy takes effect. -/
lemma raise_labelBranch (h : Adds before (.labelBranch :: spelled) found) :
    before.raise .labelBranch = .ok { before with labelBranch := true }
      ∧ Adds { before with labelBranch := true } spelled found := by
  obtain ⟨hconfig, hnonempty, hquit, hcap, hlabelBranch, hverbose, hoperand⟩ := h
  rw [List.count_cons_self] at hlabelBranch
  have hbefore : before.labelBranch = false := by
    cases hbefore : before.labelBranch with
    | false => rfl
    | true =>
        have hle := Bool.toNat_le found.labelBranch
        rw [hbefore, Bool.toNat_true] at hlabelBranch
        omega
  refine ⟨by simp [Found.raise, hbefore], hconfig, hnonempty, hquit, hcap, ?_, ?_, hoperand⟩
  · simpa [hbefore, Nat.add_comm] using hlabelBranch
  · simpa [Spelled.timesOf, Spelled.times] using hverbose

end Adds

/-- The order of the options makes no difference. -/
lemma Gives.perm {spelled reordered : List Spelled} (h : Gives scope spelled found)
    (hperm : reordered.Perm spelled) : Gives scope reordered found :=
  ⟨fun option hoption => h.suits option (hperm.mem_iff.mp hoption), h.adds.perm hperm⟩

/-- **Each option changes what a reading comes to**, in the same way however it is spelled. -/
lemma passesBy_option (h : Amounts reading before) {option : Spelled} {spelled : List Spelled}
    (hsuits : option.Suits scope) (hadds : Adds before (option :: spelled) found) :
    ∃ next between, PassesBy scope reading option.words next ∧ Amounts next between
      ∧ Adds between spelled found := by
  cases option with
  | cluster more =>
      obtain ⟨next, hpasses, hnext⟩ := passesBy_cluster h more
      exact ⟨next, _, hpasses, hnext, hadds.raise_verbose (.inr ⟨more, rfl⟩)⟩
  | verbose =>
      obtain ⟨next, hpasses, hnext⟩ := passesBy_flag h scope.verbose_mem rfl rfl
      exact ⟨next, _, hpasses, hnext, hadds.raise_verbose (.inl rfl)⟩
  | valued switch form value =>
      obtain ⟨hswitch, htakes, hform⟩ := hsuits
      obtain ⟨between, hgive, hmore⟩ := hadds.give htakes
      obtain ⟨next, hpasses, hnext⟩ := passesBy_valued h hswitch htakes hform hgive
      exact ⟨next, between, hpasses, hnext, hmore⟩
  | labelBranch =>
      obtain ⟨hraise, hmore⟩ := hadds.raise_labelBranch
      obtain ⟨next, hpasses, hnext⟩ := passesBy_flag h hsuits rfl hraise
      exact ⟨next, _, hpasses, hnext, hmore⟩

/-- **Options pass by**, in any order and however they are spelled, and the reading behind them
comes to what they give. -/
theorem passesBy_spelled (h : Amounts reading before) {spelled : List Spelled}
    (hsuits : ∀ option ∈ spelled, option.Suits scope) (hadds : Adds before spelled found) :
    ∃ next, PassesBy scope reading (spelled.flatMap Spelled.words) next ∧ Amounts next found := by
  induction spelled generalizing reading before with
  | nil => exact ⟨reading, .nil, hadds.eq_of_nil ▸ h⟩
  | cons option spelled ih =>
      obtain ⟨hoption, hspelled⟩ := List.forall_mem_cons.mp hsuits
      obtain ⟨between, now, hpasses, hbetween, hmore⟩ := passesBy_option h hoption hadds
      obtain ⟨next, hrest, hnext⟩ := ih hbetween hspelled hmore
      exact ⟨next, hpasses.append hrest, hnext⟩

end CommentSeparator
