import CommentSeparator.Program
import CommentSeparator.Proofs.CommandLine.Lines
import CommentSeparator.Proofs.Session.Reference
import CommentSeparator.Proofs.Style.Resolved

/-!
# Runs of the program

A run reads its words, finds the styles and does a job.  Where the words are understood and the
styles are found, nothing but the job is left (`run_of_finds`): blocks and texts are always written
whole (`prints_blocks`, `prints_text`), and a session is held over the whole input
(`prints_session`).
-/

namespace CommentSeparator.Program

/-- A run that succeeds, and what it writes. -/
def Prints (around : Surroundings) (words : List String) (octets : List UInt8) : Prop :=
  ∃ outcome, run words around = .ok outcome ∧ outcome.exitCode = 0 ∧ outcome.errorText = none
    ∧ outcome.output = octets

/-- The styles that a run finds, with or without a named file. -/
def Finds (around : Surroundings) (config : Option String) (resolved : Resolved) : Prop :=
  (around.resolve (config.map Path.ofText)).value = .ok resolved

/-- The styles in effect are those of the file that is chosen; without a named one the working
directory has to be known. -/
lemma Surroundings.resolve_eq_ok_iff {around : Surroundings} {config : Option Path}
    {resolved : Resolved} :
    (around.resolve config).value = .ok resolved
      ↔ (config = none → around.directoryError? = none)
        ∧ (StyleFile.resolve around.files around.directory config).value = .ok resolved := by
  unfold Surroundings.resolve
  cases config <;> cases around.directoryError? <;> simp [Except.mapError_eq_ok]

/-- Styles that are found can be written. -/
lemma exists_toml_of_finds {around : Surroundings} {config : Option String} {resolved : Resolved}
    (h : Finds around config resolved) : ∃ toml, resolved.styles.toToml? = some toml :=
  StyleFile.exists_toml_of_resolve (Surroundings.resolve_eq_ok_iff.mp h).2

/-- There are no styles in effect iff the working directory is needed and cannot be told, or the
chosen file gives none. -/
lemma Surroundings.resolve_eq_error_iff {around : Surroundings} {config : Option Path}
    {failure : Failure} :
    (around.resolve config).value = .error failure
      ↔ (config = none ∧ ∃ reason, around.directoryError? = some reason
          ∧ .nowhere reason = failure)
        ∨ (config = none → around.directoryError? = none)
          ∧ ∃ error, (StyleFile.resolve around.files around.directory config).value = .error error
            ∧ .styles error = failure := by
  unfold Surroundings.resolve
  cases config <;> cases around.directoryError? <;> simp [Except.mapError_eq_error]

/-- No files around, and some octets to read. -/
def Surroundings.bare (input : List UInt8) : Surroundings where
  directory := ⟨true, []⟩
  files := ⟨fun _ => false, fun _ => .error .notFound⟩
  input := input

lemma finds_bare (input : List UInt8) : Finds (.bare input) none ⟨{}, .builtin⟩ := by
  have hsearch : StyleFile.search (Surroundings.bare input).files
      (Surroundings.bare input).directory = none := by
    rw [StyleFile.search_eq_find?, List.find?_eq_none]
    exact fun _ _ => Bool.false_ne_true
  refine Surroundings.resolve_eq_ok_iff.mpr ⟨fun _ => rfl, ?_⟩
  rw [Option.map_none, StyleFile.resolve, StyleFile.choose, hsearch]
  rfl

/-- One file around, with a text in it. -/
def Surroundings.withFile (name text : String) : Surroundings where
  directory := ⟨true, []⟩
  files :=
    { isFile := fun path => path = .ofText name
      read := fun path => if path = .ofText name then .ok (Text.encode text) else .error .notFound }

/-- Styles are found in a file that is named and holds a text for them. -/
lemma finds_of_read {around : Surroundings} {name text : String} {styles : Styles}
    (hread : around.files.read (.ofText name) = .ok (Text.encode text))
    (hstyles : Styles.ofToml text = .ok styles) :
    Finds around (some name) ⟨styles, .file (.ofText name)⟩ :=
  Surroundings.resolve_eq_ok_iff.mpr ⟨fun h => absurd h (Option.some_ne_none _),
    StyleFile.resolve_named (StyleFile.load_eq_ok_iff.mpr ⟨text, hread, hstyles⟩)⟩

lemma finds_withFile (name : String) {text : String} {styles : Styles}
    (hstyles : Styles.ofToml text = .ok styles) :
    Finds (.withFile name text) (some name) ⟨styles, .file (.ofText name)⟩ :=
  finds_of_read (by simp [Surroundings.withFile]) hstyles

/-- A run whose words are understood is the execution of what they ask for. -/
lemma run_of_ofWords {words : List String} {invocation : Invocation}
    (hwords : Invocation.ofWords words = .ok invocation) (around : Surroundings) :
    run words around
      = .ok (outcome around.tomlWords (Filter.effective around.logSetting invocation.verbosity)
        (execute invocation around)) := by
  simp only [run, hwords]
  rfl

section Resolved

variable {around : Surroundings} {config : Option String} {verbose : ℕ} {resolved : Resolved}
  {words : List String}

/-- With the styles found, what is left to do is the job of the command. -/
lemma execute_of_finds (invocation : Invocation)
    (hfinds : Finds around invocation.config resolved) :
    (execute invocation around).value
      = (perform around.input
          ((invocation.command?.getD .implied).job resolved).value).value := by
  unfold Finds at hfinds
  simp only [execute, Logged.value_bind, hfinds]

/-- **With the styles found, a run is its job**: what it leaves behind is what the job does, under
some filter for the events. -/
lemma run_of_finds {command? : Option Command} (hfinds : Finds around config resolved)
    (hwords : Invocation.ofWords words = .ok (.withGlobals config verbose command?)) :
    ∃ events filter, run words around
      = .ok (outcome around.tomlWords filter
        ⟨(perform around.input ((command?.getD .implied).job resolved).value).value,
          events⟩) := by
  have hexecution := execute_of_finds (.withGlobals config verbose command?) hfinds
  simp only [Invocation.withGlobals] at hexecution
  rw [← hexecution]
  exact ⟨_, _, run_of_ofWords hwords around⟩

/-- Blocks are written whole. -/
lemma prints_blocks {command : Command} {lines : List String}
    (hfinds : Finds around config resolved)
    (hwords : Invocation.ofWords words = .ok (.withGlobals config verbose (some command)))
    (hjob : (command.job resolved).value = .blocks lines) :
    Prints around words (Sink.blockOctets lines) := by
  obtain ⟨events, filter, hrun⟩ := run_of_finds hfinds hwords
  rw [Option.getD_some, hjob] at hrun
  refine ⟨_, hrun, rfl, rfl, ?_⟩
  have hfits : Sink.Fits {} (Sink.blockOctets lines).length := Sink.fits_of_room_eq_none rfl _
  show (Sink.putBlocks {} lines).sink.octets = Sink.blockOctets lines
  rw [Sink.putBlocks_eq_write, Sink.write_of_fits hfits, Sink.octets_extended]
  rfl

/-- A text is written whole. -/
lemma prints_text {command : Command} {text : String} (hfinds : Finds around config resolved)
    (hwords : Invocation.ofWords words = .ok (.withGlobals config verbose (some command)))
    (hjob : (command.job resolved).value = .text text none) :
    Prints around words (Text.encode text) := by
  obtain ⟨events, filter, hrun⟩ := run_of_finds hfinds hwords
  rw [Option.getD_some, hjob] at hrun
  exact ⟨_, hrun, rfl, rfl, rfl⟩

/-- A session that succeeds is a run that succeeds, and it has the whole input to read. -/
lemma prints_session {quitWord : Option String} {cap : Option UInt64} {labelBranch : Bool}
    {summary : Summary} (hfinds : Finds around config resolved)
    (hwords : Invocation.ofWords words
      = .ok (.withGlobals config verbose (some (.interactive quitWord cap labelBranch))))
    (hok : (Session.run (resolved.styles.withLabelBranch labelBranch)
      ⟨quitWord, cap.map UInt64.toNat⟩ {} around.input).value.result = .ok summary) :
    Prints around words
      (Session.run (resolved.styles.withLabelBranch labelBranch)
        ⟨quitWord, cap.map UInt64.toNat⟩ {} around.input).value.progress.sink.octets := by
  obtain ⟨events, filter, hrun⟩ := run_of_finds hfinds hwords
  simp only [Option.getD_some, Command.job, Logged.value_pure, perform, Logged.value_bind, hok]
    at hrun
  exact ⟨_, hrun, rfl, rfl, rfl⟩

end Resolved

end CommentSeparator.Program
