import CommentSeparator.Proofs.Log.Selection
import CommentSeparator.Proofs.Program.Runs

/-!
# Logging

What a run reports is settled before anybody asks what of it is logged: an execution has its events,
and the filter for them comes in at the very end.  So the log is **one sequence of events,
filtered** (`logging_only_filters`).  The count of `-v` and the log setting choose the filter and
touch nothing else, neither the output nor the exit status nor what is said about a failure.
-/

namespace CommentSeparator.Program

/-- The log setting makes no difference to what is done. -/
lemma execute_logSetting (invocation : Invocation) (around : Surroundings)
    (setting : Option String) :
    execute invocation { around with logSetting := setting } = execute invocation around := rfl

/-- The count of `-v` makes no difference to what is done. -/
lemma execute_verbosity (config : Option String) (few many : UInt8) (command? : Option Command)
    (around : Surroundings) :
    execute ⟨config, few, command?⟩ around = execute ⟨config, many, command?⟩ around := rfl

/-- **Logging never changes a run, and the count of `-v` only filters.**

For what is asked for, the count of `-v` apart, there is one sequence of events, one output, one
exit status and one text about the failure, if any.  Every run that is asked for this, with whatever
count and log setting, has these, and its log is the sequence without the events that the filter in
effect keeps back.  There is always exactly one filter in effect.  It lets an event through if the
last of the most specific directives about it, those with the longest target, wants its level.  So
without a log setting the log for a count is a part of the log for a greater one. -/
theorem logging_only_filters (around : Surroundings) (config : Option String)
    (command? : Option Command) :
    ∃ (events : List Event) (exitCode : ℕ) (output : List UInt8) (errorText : Option String),
      (∀ words verbosity setting filter,
          Invocation.ofWords words = .ok { config, verbosity, command? } →
          Filter.InEffect verbosity setting filter →
          run words { around with logSetting := setting }
            = .ok
              { exitCode, output, log := (events.filter filter.passes).map Event.line, errorText })
        ∧ (∀ verbosity setting, ∃! filter, Filter.InEffect verbosity setting filter)
        ∧ (∀ (filter : Filter) event, filter.passes event = true
            ↔ ∃ directive, filter.Decides event directive
              ∧ directive.threshold.allows event.level = true)
        ∧ ∀ few many words words' outcome outcome', few ≤ many →
            Invocation.ofWords words = .ok { config, verbosity := few, command? } →
            Invocation.ofWords words' = .ok { config, verbosity := many, command? } →
            run words { around with logSetting := none } = .ok outcome →
            run words' { around with logSetting := none } = .ok outcome' →
            outcome.log.Sublist outcome'.log := by
  let execution := execute { config, command? } around
  have hrun : ∀ words verbosity setting filter,
      Invocation.ofWords words = .ok { config, verbosity, command? } →
      Filter.InEffect verbosity setting filter →
      run words { around with logSetting := setting }
        = .ok (outcome around.tomlWords filter execution) := by
    intro words verbosity setting filter hwords hfilter
    rw [run_of_ofWords hwords, execute_logSetting, execute_verbosity config verbosity 0,
      Filter.effective_eq_iff.mpr hfilter]
  refine ⟨execution.events, _, _, _, hrun, fun verbosity setting => ?_,
    fun _ _ => Filter.passes_iff, ?_⟩
  · exact ⟨_, Filter.effective_eq_iff.mp rfl, fun _ h => (Filter.effective_eq_iff.mpr h).symm⟩
  · intro few many words words' _ _ hle hwords hwords' hfew hmany
    have hcount : ∀ verbosity, Filter.InEffect verbosity none (Filter.default verbosity) :=
      fun verbosity => .unset (Filter.ofSetting?_defaultText verbosity)
    rw [hrun words few none _ hwords (hcount few)] at hfew
    rw [hrun words' many none _ hwords' (hcount many)] at hmany
    obtain rfl := Except.ok.inj hfew
    obtain rfl := Except.ok.inj hmany
    exact (Filter.sublist_of_le hle execution.events).map Event.line

/-- A region request, quietly, with all that is reported, and with a setting for one target. -/
theorem logging_only_filters_of_region_request :
    Invocation.ofWords ["line", "--", "region x"]
        = .ok { command? := some (.line "region x" false) }
      ∧ Invocation.ofWords ["-vv", "line", "--", "region x"]
        = .ok { verbosity := 2, command? := some (.line "region x" false) }
      ∧ Filter.InEffect 0 (some "sepgen::dispatch=debug")
          [{ target := "sepgen::dispatch", threshold := some .debug }]
      ∧ ∃ quiet loud chosen,
        run ["line", "--", "region x"] (.bare []) = .ok quiet
          ∧ run ["-vv", "line", "--", "region x"] (.bare []) = .ok loud
          ∧ run ["line", "--", "region x"]
              { Surroundings.bare [] with logSetting := some "sepgen::dispatch=debug" } = .ok chosen
          ∧ quiet.output = loud.output ∧ quiet.output = chosen.output
          ∧ quiet.log.Sublist loud.log := by
  have hquiet : Invocation.ofWords ["line", "--", "region x"]
      = .ok { command? := some (.line "region x" false) } := rfl
  have hloud : Invocation.ofWords ["-vv", "line", "--", "region x"]
      = .ok { verbosity := 2, command? := some (.line "region x" false) } := rfl
  have hset : Filter.InEffect 0 (some "sepgen::dispatch=debug")
      [{ target := "sepgen::dispatch", threshold := some .debug }] := .set rfl
  have hcount : ∀ verbosity, Filter.InEffect verbosity none (Filter.default verbosity) :=
    fun verbosity => .unset (Filter.ofSetting?_defaultText verbosity)
  obtain ⟨events, exitCode, output, errorText, hrun, -, -, hsublist⟩ :=
    logging_only_filters (.bare []) none (some (.line "region x" false))
  have hrunQuiet := hrun _ _ _ _ hquiet (hcount 0)
  have hrunLoud := hrun _ _ _ _ hloud (hcount 2)
  exact ⟨hquiet, hloud, hset, _, _, _, hrunQuiet, hrunLoud, hrun _ _ _ _ hquiet hset, rfl, rfl,
    hsublist 0 2 _ _ _ _ (by decide) hquiet hloud hrunQuiet hrunLoud⟩

end CommentSeparator.Program
