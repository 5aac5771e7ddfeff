import CommentSeparator.Proofs.Program.Runs
import CommentSeparator.Proofs.Session.Typed

/-!
# Entry points

Separators can be asked for in several ways: as a header, as a region, as an input line that says
which of the two it is, and as a label that is typed at a prompt.  They are the same separators.
`line` does what its request is (`prints_line`), a session does what `line` does for each label, and
without a command a session is held (`run_without_command`).

All these runs succeed, with **one exception**: a session that is given octets which are no text
breaks off.
-/

namespace CommentSeparator.Program

open Session (IsTyped typedInput)
open Text (encode decode?)

/-! ## One separator -/

section Commands

variable {around : Surroundings} {config : Option String} {resolved : Resolved}

/-- Headers do not have a branch policy. -/
lemma header_withLabelBranch (styles : Styles) (labelBranch : Bool) :
    (styles.withLabelBranch labelBranch).header = styles.header := by
  cases labelBranch <;> rfl

lemma prints_header (hconfig : config ≠ some "") (verbose : ℕ)
    (hfinds : Finds around config resolved) {x : String} (h : Request.ofInput x = .header x)
    (labelBranch : Bool) :
    Prints around (globalWords config verbose ++ ["header", "--", x])
      (Sink.blockOctets ((resolved.styles.withLabelBranch labelBranch).render x).value) := by
  refine prints_blocks hfinds (Invocation.ofWords_header hconfig verbose x) ?_
  simp [Command.job, Styles.render_eq, h, Styles.renderRequest_header, header_withLabelBranch]

lemma prints_region (hconfig : config ≠ some "") (verbose : ℕ)
    (hfinds : Finds around config resolved) {x label : String}
    (h : Request.ofInput x = .region label) (labelBranch : Bool) :
    Prints around
      (globalWords config verbose
        ++ "region" :: (labelBranchWords labelBranch ++ ["--", label]))
      (Sink.blockOctets ((resolved.styles.withLabelBranch labelBranch).render x).value) := by
  refine prints_blocks hfinds (Invocation.ofWords_region hconfig verbose label labelBranch) ?_
  simp [Command.job, Styles.render_eq, h, Styles.renderRequest_region]

lemma prints_line (hconfig : config ≠ some "") (verbose : ℕ)
    (hfinds : Finds around config resolved) (x : String) (labelBranch : Bool) :
    Prints around
      (globalWords config verbose ++ "line" :: (labelBranchWords labelBranch ++ ["--", x]))
      (Sink.blockOctets ((resolved.styles.withLabelBranch labelBranch).render x).value) :=
  prints_blocks hfinds (Invocation.ofWords_line hconfig verbose x labelBranch) rfl

end Commands

/-! ## No command -/

/-- Without a command, a session is held. -/
lemma run_without_command {config : Option String} (hconfig : config ≠ some "") (verbose : ℕ)
    (around : Surroundings) :
    run (globalWords config verbose ++ ["interactive"]) around
      = run (globalWords config verbose) around := by
  have hcount : (none : Option String).map Text.count? = (none : Option UInt64).map some := rfl
  have hwords := Invocation.ofWords_interactive hconfig verbose hcount none false
  rw [run_of_ofWords (Invocation.ofWords_globalWords hconfig verbose)]
  exact run_of_ofWords hwords around

/-- Without a command, a run succeeds iff its input is text. -/
lemma exitCode_without_command {around : Surroundings} {config : Option String}
    {resolved : Resolved} (hconfig : config ≠ some "") (verbose : ℕ)
    (hfinds : Finds around config resolved) :
    ∃ outcome, run (globalWords config verbose) around = .ok outcome
      ∧ outcome.exitCode = if (decode? around.input).isSome then 0 else 1 := by
  obtain ⟨events, filter, hrun⟩ :=
    run_of_finds hfinds (Invocation.ofWords_globalWords hconfig verbose)
  refine ⟨_, hrun, ?_⟩
  have hresult := Session.run_to_end_iff (resolved.styles.withLabelBranch false) around.input
  simp only [outcome, Option.getD_none, Command.implied, Command.job, Logged.value_pure, perform,
    Logged.value_bind, Option.map_none, hresult]
  cases (decode? around.input).isSome <;> rfl

/-! ## Agreement -/

/-- **All ways to ask for a separator agree.**  Where the styles are found, an input line gives what
`header` or `region` gives for its label.  A session that is capped at one label writes the prompt
and what `line` gives; one that runs to the end of its input writes this for each label in order,
and a prompt and a line feed behind them.  Without a command all is as with `interactive`.  These
runs succeed, but a run without a command fails where its input is no text. -/
theorem entry_points_agree {around : Surroundings} {config : Option String} {resolved : Resolved}
    (hconfig : config ≠ some "") (verbose : ℕ) (hfinds : Finds around config resolved)
    (labelBranch : Bool) :
    let prints := fun (words : List String) (input octets : List UInt8) =>
      Prints { around with input } (globalWords config verbose ++ words) octets
    let flag := labelBranchWords labelBranch
    let styles := resolved.styles.withLabelBranch labelBranch
    let shown := fun x => Sink.blockOctets (styles.render x).value
    (∀ x input, prints ("line" :: (flag ++ ["--", x])) input (shown x)
        ∧ (Request.ofInput x = .header x → prints ["header", "--", x] input (shown x))
        ∧ ∀ label, Request.ofInput x = .region label →
          prints ("region" :: (flag ++ ["--", label])) input (shown x))
      ∧ (∀ x ending, IsTyped x ending →
          prints ("interactive" :: "-n" :: "1" :: flag) (encode (x ++ ending))
            (encode Session.prompt ++ shown x))
      ∧ (∀ (typed : List (String × String)) (quitWord count : Option String)
          (cap : Option UInt64) rendered,
          (∀ line ∈ typed, IsTyped line.1 line.2) → count.map Text.count? = cap.map some →
          (Session.run styles ⟨quitWord, cap.map UInt64.toNat⟩ {} (typedInput typed)).value.result
            = .ok ⟨rendered, .endOfInput⟩ →
          prints ("interactive" :: interactiveWords quitWord count labelBranch) (typedInput typed)
            (typed.flatMap (fun line => encode Session.prompt ++ shown line.1)
              ++ (encode Session.prompt ++ encode "\n")))
      ∧ ∀ input, ∃ outcome, run (globalWords config verbose) { around with input } = .ok outcome
          ∧ run (globalWords config verbose ++ ["interactive"]) { around with input } = .ok outcome
          ∧ outcome.exitCode = if (decode? input).isSome then 0 else 1 := by
  intro prints flag styles shown
  have hfinds' : ∀ input, Finds { around with input } config resolved := fun _ => hfinds
  refine ⟨fun x input => ⟨?_, fun h => ?_, fun label h => ?_⟩, ?_, ?_, ?_⟩
  · exact prints_line hconfig verbose (hfinds' input) x labelBranch
  · exact prints_header hconfig verbose (hfinds' input) h labelBranch
  · exact prints_region hconfig verbose (hfinds' input) h labelBranch
  · intro x ending htyped
    obtain ⟨hok, hoctets⟩ := Session.run_single styles htyped
    have hwords := Invocation.ofWords_interactive_one hconfig verbose labelBranch
    have hprints := prints_session (hfinds' (encode (x ++ ending))) hwords hok
    exact hoctets ▸ hprints
  · intro typed quitWord count cap rendered htyped hcount hok
    have hwords := Invocation.ofWords_interactive hconfig verbose hcount quitWord labelBranch
    have hprints := prints_session (hfinds' (typedInput typed)) hwords hok
    exact Session.octets_of_endOfInput styles htyped hok ▸ hprints
  · intro input
    obtain ⟨outcome, hrun, hexit⟩ := exitCode_without_command hconfig verbose (hfinds' input)
    exact ⟨outcome, hrun, (run_without_command hconfig verbose _).trans hrun, hexit⟩

/-- A header and a region, asked for in each way, and both of them in a session. -/
theorem entry_points_agree_of_two_labels :
    Request.ofInput "a" = .header "a" ∧ Request.ofInput "Region  x " = .region "x"
      ∧ Prints (.bare []) ["header", "--", "a"]
          (Sink.blockOctets (({} : Styles).render "a").value)
      ∧ Prints (.bare []) ["line", "--", "Region  x "]
          (Sink.blockOctets (({} : Styles).render "Region  x ").value)
      ∧ Prints (.bare []) ["region", "--", "x"]
          (Sink.blockOctets (({} : Styles).render "Region  x ").value)
      ∧ Prints (.bare (encode ("Region  x " ++ "\r\n"))) ["interactive", "-n", "1"]
          (encode Session.prompt ++ Sink.blockOctets (({} : Styles).render "Region  x ").value)
      ∧ Prints (.bare (typedInput [("Region  x ", "\r\n"), ("a", "\n")])) ["interactive"]
          (encode Session.prompt ++ Sink.blockOctets (({} : Styles).render "Region  x ").value
            ++ (encode Session.prompt ++ Sink.blockOctets (({} : Styles).render "a").value)
            ++ (encode Session.prompt ++ encode "\n")) := by
  have hheader : Request.ofInput "a" = .header "a" := by decide
  have hregion : Request.ofInput "Region  x " = .region "x" := by decide
  have hfirst : IsTyped "Region  x " "\r\n" := ⟨by simp [IsOneLine], by decide, .inr rfl⟩
  have hsecond : IsTyped "a" "\n" := ⟨by simp [IsOneLine], by decide, .inl rfl⟩
  obtain ⟨hasked, hone, hall, -⟩ := entry_points_agree (by decide) 0 (finds_bare []) false
  obtain ⟨hline, -, hregionPrints⟩ := hasked "Region  x " []
  refine ⟨hheader, hregion, (hasked "a" []).2.1 hheader, hline, hregionPrints "x" hregion,
    hone _ _ hfirst, ?_⟩
  exact hall [("Region  x ", "\r\n"), ("a", "\n")] none none none 2
    (by simp [hfirst, hsecond]) rfl rfl

/-- Not every run succeeds: without a command, an octet that is no text makes it fail. -/
theorem not_all_entry_points_succeed :
    Finds (.bare [255]) none ⟨{}, .builtin⟩
      ∧ ∃ outcome, run [] (.bare [255]) = .ok outcome ∧ outcome.exitCode = 1 :=
  ⟨finds_bare [255], exitCode_without_command (by decide) 0 (finds_bare [255])⟩

end CommentSeparator.Program
