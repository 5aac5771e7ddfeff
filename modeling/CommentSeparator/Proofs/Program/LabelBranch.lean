import CommentSeparator.Proofs.Program.EntryPoints
import CommentSeparator.Proofs.Separator.Blocks

/-!
# The policy of a run

That a region looks at its label, and not at the room, can be asked for in two ways: by a flag, for
one run, and in the style file.  The flag is taken up after the file has been read, in each command
that has it; the file goes through its text.  **Both come to the same styles**, so the job of a
command is the same (`TakesLabelBranch.job_eq`), and with it the run.

What the flag changes is only ever a region: no header has a policy, and a region is written
differently only for an empty label, or where there is exactly no room for dashes, and not if both
come together (`label_branch_flag`).
-/

namespace CommentSeparator

open Text (encode)

/-- The styles whose regions look at their labels. -/
def Styles.lookingAtLabels (styles : Styles) : Styles :=
  { styles with region := { styles.region with branch := .label } }

/-- A document that can be read can be written with the other policy. -/
lemma exists_toml_lookingAtLabels {text : String} {styles : Styles}
    (h : Styles.ofToml text = .ok styles) :
    ∃ toml, styles.lookingAtLabels.toToml? = some toml := by
  have hwidths := widths_lt_of_ofToml h
  rw [← Option.isSome_iff_exists, toToml?_isSome_iff]
  exact hwidths

/-- What is asked for with a header is written without a policy. -/
lemma render_withLabelBranch {input label : String} (h : Request.ofInput input = .header label)
    (styles : Styles) (labelBranch : Bool) :
    (styles.withLabelBranch labelBranch).render input = styles.render input := by
  simp only [Styles.render_eq, h, Styles.renderRequest_header, Program.header_withLabelBranch]

/-- The flag changes what is written for a label iff it is empty, or there is exactly no room for
dashes, and not both. -/
lemma blockOctets_withLabelBranch_ne_iff (styles : Styles) (label : String) :
    Sink.blockOctets ((styles.withLabelBranch true).region.lines label).value.toList
        ≠ Sink.blockOctets (styles.region.lines label).value.toList
      ↔ styles.region.branch = .dashCount
        ∧ ¬ (label = "" ↔ styles.region.topRoom = 0) := by
  obtain ⟨header, opening, closing, width, branch⟩ := styles
  cases branch with
  | dashCount =>
      rw [ne_comm, ne_eq, RegionStyle.topRoom,
        ← blockOctets_policies_eq_iff opening closing width label]
      simp [Styles.withLabelBranch]
  | label => simp [Styles.withLabelBranch]

/-- The commands that have the flag, each with all else that it is given. -/
inductive TakesLabelBranch : (Bool → Command) → Prop where
  | region (label : Option String) : TakesLabelBranch (.region label)
  | line (input : String) : TakesLabelBranch (.line input)
  | interactive (quitWord : Option String) (cap : Option UInt64) :
      TakesLabelBranch (.interactive quitWord cap)

/-- **The flag is as good as the file**: a command has the same to do. -/
lemma TakesLabelBranch.job_eq {command : Bool → Command} (h : TakesLabelBranch command)
    (styles : Styles) (source source' : Source) :
    (command true).job ⟨styles, source⟩
      = (command false).job ⟨styles.lookingAtLabels, source'⟩ := by
  cases h with
  | region label => rfl
  | line input => rfl
  | interactive quitWord cap => rfl

namespace Program

/-- A file with a text in it is around under a name. -/
def Surroundings.Holds (around : Surroundings) (name text : String) : Prop :=
  around.files.read (.ofText name) = .ok (encode text)

/-- Commands that have the same to do make for the same execution. -/
lemma execute_of_job_eq {around : Surroundings} {config : Option String} {resolved : Resolved}
    {command command' : Command} (hfinds : Finds around config resolved)
    (hjob : command.job resolved = command'.job resolved) (verbosity : UInt8) :
    execute ⟨config, verbosity, some command⟩ around
      = execute ⟨config, verbosity, some command'⟩ around := by
  unfold Finds at hfinds
  simp only [execute, bind, Logged.andThen, hfinds, Option.getD_some, hjob]

/-- Once there are styles, the TOML library has no more to say. -/
lemma errorText_eq_of_takesLabelBranch {command : Bool → Command} (h : TakesLabelBranch command)
    (labelBranch : Bool) (resolved : Resolved) (input : List UInt8) (words words' : TomlWords) :
    (perform input ((command labelBranch).job resolved).value).value.failure.map
        (fun failure => "error: " ++ failure.message words)
      = (perform input ((command labelBranch).job resolved).value).value.failure.map
        (fun failure => "error: " ++ failure.message words') := by
  cases h with
  | region label => rfl
  | line input => rfl
  | interactive quitWord cap =>
      simp only [Command.job, Logged.value_pure, perform, Logged.value_bind]
      split <;> rfl

/-- **The flag and the style file are interchangeable.**  Styles that can be read can be written
with the policy that looks at labels.  A run that is given the flag and a file of the one text, and
a run that is given no flag and a file of the other, with all else alike, succeed or fail alike and
write the same; and with the other text the flag makes no difference at all.

The flag does not change what is rendered for an input that asks for a header.  It changes what is
written for the label of a region iff the policy was to count dashes, and the label is empty but
there is room for dashes or too little, or is not empty and there is exactly none. -/
theorem label_branch_flag {text : String} {styles : Styles}
    (h : Styles.ofToml text = .ok styles) :
    (∃ text', styles.lookingAtLabels.toToml? = some text'
        ∧ ∀ {command}, TakesLabelBranch command →
          ∀ {around around' : Surroundings} {name name' verbosity verbosity' words words'},
            around.Holds name text → around'.Holds name' text' → around'.input = around.input →
            Invocation.ofWords words = .ok ⟨some name, verbosity, some (command true)⟩ →
            Invocation.ofWords words' = .ok ⟨some name', verbosity', some (command false)⟩ →
            (∃ outcome outcome', run words around = .ok outcome ∧ run words' around' = .ok outcome'
              ∧ outcome'.output = outcome.output ∧ outcome'.exitCode = outcome.exitCode
              ∧ outcome'.errorText = outcome.errorText)
            ∧ ∀ flagged, Invocation.ofWords flagged
                = .ok ⟨some name', verbosity', some (command true)⟩ →
              run flagged around' = run words' around')
      ∧ (∀ input label, Request.ofInput input = .header label →
          (styles.withLabelBranch true).render input = styles.render input)
      ∧ (∀ label, Sink.blockOctets ((styles.withLabelBranch true).region.lines label).value.toList
            ≠ Sink.blockOctets (styles.region.lines label).value.toList
          ↔ styles.region.branch = .dashCount ∧ ¬ (label = "" ↔ styles.region.topRoom = 0))
      ∧ (styles.region.opening.length + styles.region.closing.length + 1 < 0x8000000000000000 →
          (styles.region.topRoom = 0
            ↔ signedWidth styles.region.width - styles.region.opening.length
              - styles.region.closing.length - 1 = 0)) := by
  refine ⟨?_, fun input label hheader => render_withLabelBranch hheader styles true,
    blockOctets_withLabelBranch_ne_iff styles, freeRoom_eq_zero_iff⟩
  obtain ⟨text', htext'⟩ := exists_toml_lookingAtLabels h
  refine ⟨text', htext', ?_⟩
  intro command hcommand around around' name name' verbosity verbosity' words words' hholds hholds'
    hinput hwords hwords'
  have hfinds : Finds around (some name) ⟨styles, .file (.ofText name)⟩ := finds_of_read hholds h
  have hfinds' : Finds around' (some name') ⟨styles.lookingAtLabels, .file (.ofText name')⟩ :=
    finds_of_read hholds' (ofToml_toToml? htext')
  constructor
  · have hvalue := execute_of_finds ⟨some name, verbosity, some (command true)⟩ hfinds
    have hvalue' := execute_of_finds ⟨some name', verbosity', some (command false)⟩ hfinds'
    rw [Option.getD_some, ← hcommand.job_eq styles (.file (.ofText name)), hinput] at hvalue'
    have hsame := hvalue'.trans hvalue.symm
    refine ⟨_, _, run_of_ofWords hwords around, run_of_ofWords hwords' around', ?_, ?_, ?_⟩
    · simp only [outcome, hsame]
    · simp only [outcome, hsame]
    · simp only [outcome, hsame, hvalue, Option.getD_some]
      exact errorText_eq_of_takesLabelBranch hcommand _ _ _ _ _
  · intro flagged hflagged
    have hjob := hcommand.job_eq styles.lookingAtLabels (.file (.ofText name'))
      (.file (.ofText name'))
    rw [run_of_ofWords hflagged, run_of_ofWords hwords',
      execute_of_job_eq hfinds' hjob verbosity']

/-- A region with exactly no room for dashes: it shows its label if it is asked to by the flag, or
by the file, or by both. -/
theorem label_branch_flag_of_narrow_region :
    let styles : Styles := { region := { width := 14 } }
    let plain := ["--config=narrow", "region", "--", "x"]
    let flagged := ["--config=narrow", "region", "--label-branch", "--", "x"]
    ∃ text text' outcome outcome', Styles.ofToml text = .ok styles
      ∧ styles.lookingAtLabels.toToml? = some text'
      ∧ run flagged (.withFile "narrow" text) = .ok outcome
      ∧ run plain (.withFile "narrow" text') = .ok outcome'
      ∧ run flagged (.withFile "narrow" text') = .ok outcome'
      ∧ outcome'.output = outcome.output
      ∧ Request.ofInput "x" = .header "x"
      ∧ (styles.withLabelBranch true).render "x" = styles.render "x"
      ∧ Sink.blockOctets ((styles.withLabelBranch true).region.lines "x").value.toList
        ≠ Sink.blockOctets (styles.region.lines "x").value.toList := by
  intro styles plain flagged
  obtain ⟨text, htext⟩ : ∃ text, styles.toToml? = some text := ⟨_, rfl⟩
  have hread : Styles.ofToml text = .ok styles := ofToml_toToml? htext
  have hholds : ∀ text, (Surroundings.withFile "narrow" text).Holds "narrow" text := by
    intro text
    simp [Surroundings.Holds, Surroundings.withFile]
  have hplain : Invocation.ofWords plain
      = .ok ⟨some "narrow", 0, some (.region (some "x") false)⟩ := rfl
  have hflagged : Invocation.ofWords flagged
      = .ok ⟨some "narrow", 0, some (.region (some "x") true)⟩ := rfl
  have hheader : Request.ofInput "x" = .header "x" := by decide
  obtain ⟨⟨text', htext', hruns⟩, hkeeps, hchanges, -⟩ := label_branch_flag hread
  obtain ⟨⟨outcome, outcome', hrun, hrun', houtput, -⟩, hsame⟩ :=
    hruns (.region (some "x")) (hholds text) (hholds text') rfl hflagged hplain
  refine ⟨text, text', outcome, outcome', hread, htext', hrun, hrun',
    (hsame flagged hflagged).trans hrun', houtput, hheader, hkeeps "x" "x" hheader, ?_⟩
  exact (hchanges "x").mpr ⟨rfl, by decide⟩

end Program

end CommentSeparator
