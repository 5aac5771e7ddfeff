import CommentSeparator.Proofs.Log.Selection
import CommentSeparator.Proofs.Program.Runs
import CommentSeparator.Proofs.Separator.Reported
import CommentSeparator.Proofs.Session.Reported
import CommentSeparator.Proofs.Session.Typed

/-!
# Warnings

A run that is asked for nothing more logs warnings only, and the only warning is about a label that
is lost.  So the log of a session **names the labels that were asked for and are not to be seen**:
the region labels among what was rendered, in order, where the style loses its labels, and nothing
where it does not (`losses_reported`).
-/

namespace CommentSeparator

/-! ## Warnings among the events -/

/-- The events that are logged unless more is asked for. -/
def warnings (events : List Event) : List Event :=
  events.filter (Filter.default 0).passes

@[simp]
lemma warnings_nil : warnings [] = [] := rfl

@[simp]
lemma warnings_append (events more : List Event) :
    warnings (events ++ more) = warnings events ++ warnings more :=
  List.filter_append events more

@[simp]
lemma warnings_cons (event : Event) (events : List Event) :
    warnings (event :: events)
      = if event.level = .warn then event :: warnings events else warnings events := by
  have hpasses : (Filter.default 0).passes event = true ↔ event.level = .warn := by
    rw [Filter.passes_default_iff]
    cases event <;> simp [Event.level, Level.rank, Filter.defaultLevel]
  simp only [warnings, List.filter_cons, hpasses]

/-- Missing room is no reason for a warning. -/
@[simp]
lemma warnings_fillClamped (count : ℤ) :
    warnings (if count < 0 then [.fillClamped count] else []) = [] := by
  split_ifs <;> simp [Event.level]

@[simp]
lemma warnings_lost (style : RegionStyle) (label : String) :
    warnings (style.lost label) = style.lost label := by
  unfold RegionStyle.lost
  split_ifs <;> simp [Event.level]

/-! ## Warnings about requests -/

/-- The label of a region, if it has one. -/
def Request.regionLabel? : Request → Option String
  | header _ => none
  | region label => if label = "" then none else some label

/-- The warnings about an input line. -/
lemma warnings_render (styles : Styles) (input : String) :
    warnings (styles.render input).events
      = if styles.region.LosesLabels then
          (Request.ofInput input).regionLabel?.toList.map fun label =>
            .labelDropped label styles.region.width
        else [] := by
  rw [Styles.render_eq]
  cases Request.ofInput input with
  | header label =>
      simp [Styles.renderRequest_header, HeaderStyle.events_line, Event.level,
        Request.regionLabel?]
  | region label =>
      have hlost : warnings (styles.renderRequest (.region label)).events
          = styles.region.lost label := by
        simp [Styles.renderRequest_region, RegionStyle.events_lines, Event.level]
      rw [hlost, RegionStyle.lost]
      by_cases hlabel : label = "" <;> simp [Request.regionLabel?, hlabel]

namespace Session

/-- The labels of the regions that are asked for in some lines, in order. -/
def regionLabels (lines : List (List UInt8)) : List String :=
  lines.filterMap fun line => (label? line).bind fun input => (Request.ofInput input).regionLabel?

lemma regionLabels_typed {typed : List (String × String)}
    (h : ∀ line ∈ typed, IsTyped line.1 line.2) :
    regionLabels (inputLines (typedInput typed))
      = typed.filterMap fun line => (Request.ofInput line.1).regionLabel? := by
  rw [inputLines_typed h, regionLabels, List.filterMap_map]
  refine List.filterMap_congr fun line hline => ?_
  rw [Function.comp_apply, (h line hline).label?_eq, Option.bind_some]

/-- The warnings about the lines of a session. -/
lemma warnings_rounds (styles : Styles) (lines : List (List UInt8)) :
    warnings (lines.flatMap (roundEvents styles))
      = if styles.region.LosesLabels then
          (regionLabels lines).map fun label => .labelDropped label styles.region.width
        else [] := by
  induction lines with
  | nil => simp [warnings, regionLabels]
  | cons line lines ih =>
      have hline : ((label? line).bind fun input => (Request.ofInput input).regionLabel?)
          = (Request.ofInput ((label? line).getD "")).regionLabel? := by
        cases label? line <;> rfl
      rw [List.flatMap_cons, warnings_append, ih, roundEvents, warnings_render]
      split_ifs with hloses
      · rw [← List.map_append, regionLabels, regionLabels, List.filterMap_cons, hline]
        cases (Request.ofInput ((label? line).getD "")).regionLabel? <;> rfl
      · rfl

/-- The end of a session is no reason for a warning. -/
lemma warnings_ending (ending : Ending) (rendered : ℕ) :
    warnings (ending.events rendered) = [] := by
  cases ending <;> simp [Ending.events, Ending.result, Event.level]

end Session

namespace Program

/-! ## Warnings of a run -/

/-- Where the styles come from is no reason for a warning. -/
lemma warnings_resolve (around : Surroundings) (config : Option Path) :
    warnings (around.resolve config).events = [] := by
  have hfile : warnings (StyleFile.resolve around.files around.directory config).events = [] := by
    unfold StyleFile.resolve
    cases StyleFile.choose around.files around.directory config with
    | none => simp [Event.level]
    | some path =>
        simp only
        cases StyleFile.load around.files path <;> simp [Event.level]
  unfold Surroundings.resolve
  cases config <;> cases around.directoryError? <;> simp [hfile]

variable {invocation : Invocation}

/-- The log of a run that is asked for nothing more. -/
lemma run_quiet (around : Surroundings) {words : List String}
    (hwords : Invocation.ofWords words = .ok invocation) (hquiet : invocation.verbosity = 0)
    (hsetting : around.logSetting.bind Filter.ofSetting? = none) :
    ∃ outcome, run words around = .ok outcome
      ∧ outcome.log = (warnings (execute invocation around).events).map Event.line := by
  refine ⟨_, run_of_ofWords hwords around, ?_⟩
  rw [hquiet, Filter.effective, hsetting]
  rfl

/-- Without styles nothing is done. -/
lemma warnings_execute_of_error {around : Surroundings} {failure : Failure}
    (hfailure : (around.resolve (invocation.config.map Path.ofText)).value = .error failure) :
    warnings (execute invocation around).events = [] := by
  simp only [execute, Logged.events_bind, hfailure, warnings_resolve, Logged.events_pure,
    List.append_nil]

/-- The warnings of a session that a run holds. -/
lemma warnings_execute_session {around : Surroundings} {resolved : Resolved}
    {quitWord : Option String} {cap : Option UInt64} {labelBranch : Bool}
    (hfinds : Finds around invocation.config resolved)
    (hcommand : invocation.command?.getD .implied = .interactive quitWord cap labelBranch) :
    warnings (execute invocation around).events
      = warnings (Session.run (resolved.styles.withLabelBranch labelBranch)
          ⟨quitWord, cap.map UInt64.toNat⟩ {} around.input).events := by
  unfold Finds at hfinds
  simp only [execute, Logged.events_bind, hfinds, hcommand, Command.job, perform, warnings_append,
    warnings_resolve, Logged.events_pure, Logged.value_pure, List.nil_append, List.append_nil]

lemma line_labelDropped (label : String) (width : UInt64) :
    (Event.labelDropped label width).line
      = "WARN region label dropped: no room left for fill label=" ++ Text.quote label
        ++ " max_width=" ++ toString width.toNat := by
  apply String.toList_injective
  simp [Event.line, Event.level, Event.message, Event.fields, Level.name]

/-- **No loss is silent.**  Where no count leaves the range of 64 bits, each generator reports every
line that is longer than its limit, one less than the width as a signed count, with what is missing,
and no other line.  A region reports its label, once and first of all, iff there is a label and the
lines would be the same for any other; that is so for all counts.

So a session whose log is not asked for anything logs, whatever ends it, exactly the region labels
among the labels it has rendered, in order, if its style leaves labels out for want of room, and
nothing if not, nor where no styles are found. -/
theorem losses_reported :
    (∀ (style : HeaderStyle) label, style.InRange label →
        (style.line label).events = overlong style.limit (style.line label).value)
      ∧ (∀ (style : RegionStyle) label,
        let lines := (style.lines label).value
        let isLost := label ≠ "" ∧ ∀ other, (style.lines other).value = lines
        ∃ lost missing, (style.lines label).events = lost ++ missing
          ∧ (isLost → lost = [.labelDropped label style.width])
          ∧ (¬ isLost → lost = [])
          ∧ (∀ event ∈ missing, ∃ count, event = .fillClamped count)
          ∧ (style.InRange label →
            missing = overlong style.limit lines.top ++ overlong style.limit lines.bottom))
      ∧ ∀ (around : Surroundings) {words invocation quitWord cap labelBranch},
          Invocation.ofWords words = .ok invocation → invocation.verbosity = 0 →
          around.logSetting.bind Filter.ofSetting? = none →
          invocation.command?.getD .implied = .interactive quitWord cap labelBranch →
          ∃ outcome, run words around = .ok outcome
            ∧ (∀ resolved, Finds around invocation.config resolved →
              let region := (resolved.styles.withLabelBranch labelBranch).region
              ∃ lines k ending, Session.IsLines around.input lines
                ∧ Session.StopsAt ⟨quitWord, cap.map UInt64.toNat⟩ 0 lines k ending
                ∧ (region.LosesLabels →
                  outcome.log = (Session.regionLabels (lines.take k)).map fun label =>
                    "WARN region label dropped: no room left for fill label=" ++ Text.quote label
                      ++ " max_width=" ++ toString region.width.toNat)
                ∧ (¬ region.LosesLabels → outcome.log = []))
            ∧ ((∀ resolved, ¬ Finds around invocation.config resolved) → outcome.log = []) := by
  refine ⟨fun style label hrange => hrange.events_line, fun style label => ?_, ?_⟩
  · intro lines isLost
    have hlost : isLost ↔ style.LosesLabels ∧ label ≠ "" := by
      rw [and_comm, ← style.forall_value_lines_eq_iff label]
    refine ⟨style.lost label, _, style.events_lines label, fun h => ?_, fun h => ?_,
      fun event hevent => ?_, fun hrange => ?_⟩
    · rw [RegionStyle.lost, if_pos (hlost.mp h)]
    · rw [RegionStyle.lost, if_neg (mt hlost.mpr h)]
    · rcases List.mem_append.mp hevent with htop | hbottom
      · exact eq_fillClamped_of_mem htop
      · exact eq_fillClamped_of_mem hbottom
    · have hevents := hrange.events_lines
      rw [style.events_lines, List.append_assoc] at hevents
      exact List.append_cancel_left hevents
  · intro around words invocation quitWord cap labelBranch hwords hquiet hsetting hcommand
    obtain ⟨outcome, hrun, hlog⟩ := run_quiet around hwords hquiet hsetting
    refine ⟨outcome, hrun, fun resolved hfinds => ?_, fun hno => ?_⟩
    · intro region
      obtain ⟨k, ending, h⟩ := Session.exists_stopsAt ⟨quitWord, cap.map UInt64.toNat⟩ 0
        (Session.inputLines around.input)
      have hevents :=
        Session.events_run (resolved.styles.withLabelBranch labelBranch) h
      rw [warnings_execute_session hfinds hcommand, hevents, warnings_append,
        Session.warnings_rounds, Session.warnings_ending, List.append_nil] at hlog
      refine ⟨_, k, ending, Session.isLines_inputLines around.input, h, fun hloses => ?_,
        fun hkeeps => ?_⟩
      · rw [hlog, if_pos hloses]
        simp only [List.map_map, Function.comp_def, line_labelDropped, region]
      · rw [hlog, if_neg hkeeps]
        rfl
    · cases hvalue : (around.resolve (invocation.config.map Path.ofText)).value with
      | ok resolved => exact absurd hvalue (hno resolved)
      | error failure =>
          rw [hlog, warnings_execute_of_error hvalue]
          rfl

/-- Two regions and a header are asked for.  With exactly no room for dashes both regions lose their
labels, and the log names them; their bottom lines are too long by the end marker, and a header
without any room is too long by all that it holds. -/
theorem losses_reported_of_three_labels :
    let input := Session.typedInput [("region a", "\n"), ("b", "\n"), ("REGION c ", "\r\n")]
    let header : HeaderStyle := { width := 0 }
    let region : RegionStyle := { width := 14 }
    (header.InRange "b" ∧ (header.line "b").events = [.fillClamped (-17)])
      ∧ (region.InRange "a"
        ∧ (region.lines "a").events = [.labelDropped "a" 14, .fillClamped (-5)])
      ∧ ∃ toml outcome, ({ region := { width := 14 } } : Styles).toToml? = some toml
        ∧ run ["--config=narrow", "interactive"]
            { Surroundings.withFile "narrow" toml with input } = .ok outcome
        ∧ outcome.log
          = ["WARN region label dropped: no room left for fill label=\"a\" max_width=14",
            "WARN region label dropped: no room left for fill label=\"c\" max_width=14"] := by
  intro input header region
  have hheader : header.InRange "b" := by decide
  have hregion : region.InRange "a" := by decide
  have hloses : region.LosesLabels := by decide
  obtain ⟨hheaders, hregions, hruns⟩ := losses_reported
  have hheaderEvents : (header.line "b").events = [.fillClamped (-17)] := by
    rw [hheaders header "b" hheader]
    decide
  have hregionEvents : (region.lines "a").events = [.labelDropped "a" 14, .fillClamped (-5)] := by
    obtain ⟨lost, missing, hevents, hlost, -, -, hmissing⟩ := hregions region "a"
    rw [hevents, hmissing hregion,
      hlost ⟨by decide, (region.forall_value_lines_eq_iff "a").mpr hloses⟩]
    decide
  obtain ⟨toml, htoml⟩ :
    ∃ toml, ({ region := { width := 14 } } : Styles).toToml? = some toml := ⟨_, rfl⟩
  have hfinds : Finds { Surroundings.withFile "narrow" toml with input } (some "narrow")
      ⟨{ region := { width := 14 } }, .file (.ofText "narrow")⟩ :=
    finds_withFile "narrow" (ofToml_toToml? htoml)
  have hwords : Invocation.ofWords ["--config=narrow", "interactive"]
      = .ok { config := some "narrow", command? := some (.interactive none none false) } := rfl
  have hfirst : Session.IsTyped "region a" "\n" := ⟨by simp [IsOneLine], by decide, .inl rfl⟩
  have hsecond : Session.IsTyped "b" "\n" := ⟨by simp [IsOneLine], by decide, .inl rfl⟩
  have hthird : Session.IsTyped "REGION c " "\r\n" := ⟨by simp [IsOneLine], by decide, .inr rfl⟩
  have htyped : ∀ line ∈ [("region a", "\n"), ("b", "\n"), ("REGION c ", "\r\n")],
      Session.IsTyped line.1 line.2 := by
    simp [hfirst, hsecond, hthird]
  obtain ⟨outcome, hrun, hsome, -⟩ :=
    hruns { Surroundings.withFile "narrow" toml with input } hwords rfl rfl rfl
  obtain ⟨lines, k, ending, hlines, hstops, hlog, -⟩ := hsome _ hfinds
  obtain rfl : lines = Session.inputLines input := hlines.eq_inputLines
  obtain ⟨rfl, rfl⟩ := hstops.unique (Session.stopsAt_typed htyped)
  refine ⟨⟨hheader, hheaderEvents⟩, ⟨hregion, hregionEvents⟩, toml, outcome, htoml, hrun, ?_⟩
  rw [hlog hloses, List.take_of_length_le (by rw [Session.inputLines_typed htyped]; rfl),
    Session.regionLabels_typed htyped]
  rfl

end Program

end CommentSeparator
