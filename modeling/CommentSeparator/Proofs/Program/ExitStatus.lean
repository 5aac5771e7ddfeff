import CommentSeparator.Proofs.Program.Runs
import CommentSeparator.Proofs.Session.Record
import CommentSeparator.Proofs.Style.Chosen

/-!
# The exit status of a run

A run whose words are understood fails in two ways only.  Either there are no styles, which is found
out before anything else is done, whatever the command; or a session is held and reads a line that
is no text.  Nothing else can fail: styles that were found can be written, and an output that takes
everything takes every block (`failure_eq_none`).

What is said about a failure is the **chain** of what was being done, with the cause at the end.
Where there are no styles, `Unresolved` spells it out: there is no directory to begin in, or the
file that is chosen cannot be read, or its text does not describe styles, and then the cause has the
words of the TOML library.
-/

namespace CommentSeparator

namespace Program

open Session (StopsAt Ending inputLines renderings)
open Text (encode)

variable {around : Surroundings} {resolved : Resolved} {policy : SessionPolicy} {input : List UInt8}
  {k : ℕ}

/-! ## What can fail -/

/-- **No other command fails**: what there is to write can be written. -/
lemma failure_eq_none (htoml : ∃ toml, resolved.styles.toToml? = some toml) {command : Command}
    (hcommand : ∀ quitWord cap labelBranch, command ≠ .interactive quitWord cap labelBranch)
    (input : List UInt8) :
    (perform input (command.job resolved).value).value.failure = none := by
  cases command with
  | interactive quitWord cap labelBranch => exact absurd rfl (hcommand _ _ _)
  | styles =>
      obtain ⟨toml, htoml⟩ := htoml
      simp [Command.job, Job.styles, htoml, perform]
  | _ => rfl

/-- A session fails iff it stops at a line that is no text. -/
lemma failure_session (styles : Styles) {ending : Ending}
    (h : StopsAt policy 0 (inputLines input) k ending) :
    (perform input (.session styles policy)).value.failure
      = if ending = .notText then some (.session .lineNotText) else none := by
  simp only [perform, Logged.value_bind, Session.run_unlimited styles h]
  cases ending <;> rfl

/-- With styles found, the only failure is that of a session. -/
lemma failure_job_iff (htoml : ∃ toml, resolved.styles.toToml? = some toml) {command : Command}
    {failure : Failure} :
    (perform input (command.job resolved).value).value.failure = some failure
      ↔ failure = .session .lineNotText
        ∧ ∃ quitWord cap labelBranch k, command = .interactive quitWord cap labelBranch
          ∧ StopsAt ⟨quitWord, cap.map UInt64.toNat⟩ 0 (inputLines input) k .notText := by
  by_cases hcommand : ∃ quitWord cap labelBranch, command = .interactive quitWord cap labelBranch
  · obtain ⟨quitWord, cap, labelBranch, rfl⟩ := hcommand
    obtain ⟨k, ending, hstops⟩ :=
      Session.exists_stopsAt ⟨quitWord, cap.map UInt64.toNat⟩ 0 (inputLines input)
    rw [Command.job, Logged.value_pure, failure_session _ hstops]
    constructor
    · intro h
      split_ifs at h with hending
      obtain rfl := hending
      exact ⟨(Option.some.inj h).symm, quitWord, cap, labelBranch, k, rfl, hstops⟩
    · rintro ⟨rfl, _, _, _, k', ⟨⟩, hstops'⟩
      rw [if_pos (hstops.unique hstops').2]
  · push Not at hcommand
    rw [failure_eq_none htoml hcommand]
    constructor
    · exact fun h => absurd h (by simp)
    · rintro ⟨-, quitWord, cap, labelBranch, -, hinteractive, -⟩
      exact absurd hinteractive (hcommand quitWord cap labelBranch)

/-- A session that stops at a line that is no text has prompted for it, after the rounds of the
lines before. -/
lemma output_session_of_notText (styles : Styles)
    (h : StopsAt policy 0 (inputLines input) k .notText) :
    (perform input (.session styles policy)).value.output
      = (renderings styles input k).flatMap
          (fun lines => encode Session.prompt ++ Sink.blockOctets lines)
        ++ encode Session.prompt := by
  have hlast : Session.written (Ending.notText.deeds (inputLines input)[k]?)
      = encode Session.prompt := by
    cases (inputLines input)[k]? <;>
      simp [Ending.deeds, Ending.lastRead, Session.written, Session.Deed.octets,
        Session.Piece.octets]
  simp only [perform, Logged.value_bind, Session.run_unlimited styles h]
  show (Session.Progress.after { sink := {} } _).sink.octets = _
  rw [Session.Progress.octets_after, Session.course, Session.written_append, Session.written_rounds,
    hlast]
  rfl

/-- Without styles, nothing is done, and nothing is read. -/
lemma execute_of_error {invocation : Invocation} {failure : Failure}
    (hfailure : (around.resolve (invocation.config.map Path.ofText)).value = .error failure)
    (input : List UInt8) :
    execute invocation { around with input }
      = ⟨{ failure := some failure },
        (around.resolve (invocation.config.map Path.ofText)).events⟩ := by
  have hbind : ∀ {α β : Type} (first : Logged α) (next : α → Logged β), first >>= next
      = ⟨(next first.value).value, first.events ++ (next first.value).events⟩ := fun _ _ => rfl
  have hresolve : ({ around with input } : Surroundings).resolve
      = around.resolve := rfl
  simp only [execute, hbind, hresolve, hfailure, Logged.value_pure, Logged.events_pure,
    List.append_nil]

/-! ## Without styles -/

/-- Why there are no styles in effect, with the chain of what was being done. -/
inductive Unresolved (around : Surroundings) (config : Option Path) : List String → Prop where
  /-- No file is named, and the working directory cannot be told. -/
  | nowhere {reason : ReadError} (unnamed : config = none)
      (lost : around.directoryError? = some reason) :
      Unresolved around config ["failed to get current directory", reason.message]
  /-- The text of the chosen file cannot be had. -/
  | unread {path : Path} {reason : ReadError}
      (chosen : StyleFile.Chosen around.files around.directory config (some path))
      (read : StyleFile.readText around.files path = .error reason) :
      Unresolved around config ["failed to read style file: " ++ path.text, reason.message]
  /-- The text of the chosen file describes no styles. -/
  | invalid {path : Path} {text : String} {reason : StyleError}
      (chosen : StyleFile.Chosen around.files around.directory config (some path))
      (read : StyleFile.readText around.files path = .ok text)
      (misfit : Styles.ofToml text = .error reason) :
      Unresolved around config
        (["invalid style file: " ++ path.text, "failed to parse style TOML"]
          ++ (around.tomlWords path reason).toList)

/-- The chain of a failure tells why there are no styles. -/
lemma unresolved_of_error {config : Option Path} {failure : Failure}
    (h : (around.resolve config).value = .error failure) :
    Unresolved around config (failure.chain around.tomlWords) := by
  rcases Surroundings.resolve_eq_error_iff.mp h with
    ⟨hunnamed, reason, hlost, rfl⟩ | ⟨-, error, herror, rfl⟩
  · exact .nowhere hunnamed hlost
  · obtain ⟨path, hchosen, hspoiled⟩ := StyleFile.resolve_eq_error_iff.mp herror
    cases hspoiled with
    | unread hread =>
        exact .unread hchosen (StyleFile.readText_eq_error_iff.mpr (.inl hread))
    | notText hread hdecode =>
        exact .unread hchosen (StyleFile.readText_eq_error_iff.mpr (.inr ⟨_, hread, hdecode, rfl⟩))
    | invalid hread hmisfit =>
        exact .invalid hchosen (StyleFile.readText_eq_ok_iff.mpr hread) hmisfit

/-! ## When a run fails -/

section Outcome

variable (words : TomlWords) (filter : Filter) (execution : Logged Execution)

lemma exitCode_zero_or_one :
    (outcome words filter execution).exitCode = 0
      ∨ (outcome words filter execution).exitCode = 1 := by
  cases hfailure : execution.value.failure <;> simp [outcome, hfailure]

lemma exitCode_one_iff :
    (outcome words filter execution).exitCode = 1
      ↔ ∃ failure, execution.value.failure = some failure := by
  cases hfailure : execution.value.failure <;> simp [outcome, hfailure]

/-- Nothing is said where nothing failed. -/
lemma errorText_of_exitCode_zero (h : (outcome words filter execution).exitCode = 0) :
    (outcome words filter execution).errorText = none := by
  cases hfailure : execution.value.failure <;> simp_all [outcome]

end Outcome

/-- **A run fails iff there are no styles, or a session reads a line that is no text.**

A run whose words are understood ends with 0 or with 1.  It ends with 1 iff no styles are found,
whatever the command is, or it holds a session, named or implied, that stops at a line that is no
text, before the cap, the quit word and the end of the input.  Without styles nothing is written,
and the input makes no difference.  A session that breaks off has written its rounds up to the line,
and one prompt more.  Either way the chain of the failure is what is said about it, down to the
words of the TOML library, and where there is no failure nothing is said. -/
theorem exitCode_eq_one_iff {words : List String} {invocation : Invocation}
    (hwords : Invocation.ofWords words = .ok invocation) (around : Surroundings) :
    let config := invocation.config.map Path.ofText
    let effect := (around.resolve config).value
    let command := invocation.command?.getD .implied
    let breaksOff := fun (quitWord : Option String) (cap : Option UInt64) (k : ℕ) =>
      StopsAt ⟨quitWord, cap.map UInt64.toNat⟩ 0 (inputLines around.input) k .notText
    ∃ outcome, run words around = .ok outcome
      ∧ (outcome.exitCode = 0 ∨ outcome.exitCode = 1)
      ∧ (outcome.exitCode = 1 ↔ (∃ failure, effect = .error failure)
          ∨ ∃ resolved quitWord cap labelBranch k, effect = .ok resolved
              ∧ command = .interactive quitWord cap labelBranch ∧ breaksOff quitWord cap k)
      ∧ (∀ failure, effect = .error failure →
          outcome.output = []
            ∧ outcome.errorText
              = some ("error: " ++ ": ".intercalate (failure.chain around.tomlWords))
            ∧ Unresolved around config (failure.chain around.tomlWords)
            ∧ ∀ input, run words { around with input } = .ok outcome)
      ∧ (∀ resolved quitWord cap labelBranch k, effect = .ok resolved →
          command = .interactive quitWord cap labelBranch → breaksOff quitWord cap k →
          outcome.output
              = (renderings (resolved.styles.withLabelBranch labelBranch) around.input k).flatMap
                  (fun lines => encode Session.prompt ++ Sink.blockOctets lines)
                ++ encode Session.prompt
            ∧ outcome.errorText
              = some ("error: " ++ ": ".intercalate
                  ["failed to read label", "stream did not contain valid UTF-8"]))
      ∧ (outcome.exitCode = 0 → outcome.errorText = none) := by
  intro config effect command breaksOff
  have hrun := run_of_ofWords hwords
  refine ⟨_, hrun around, exitCode_zero_or_one _ _ _, ?_, fun failure hfailure => ?_,
    fun resolved quitWord cap labelBranch k hresolved hcommand hbreaks => ?_,
    errorText_of_exitCode_zero _ _ _⟩
  · rw [exitCode_one_iff]
    cases heffect : effect with
    | error failure =>
        have haround : execute invocation around = _ := execute_of_error heffect around.input
        simp [haround]
    | ok resolved =>
        have htoml := exists_toml_of_finds heffect
        rw [execute_of_finds invocation heffect]
        constructor
        · rintro ⟨failure, hfailure⟩
          obtain ⟨-, quitWord, cap, labelBranch, k, hcommand, hbreaks⟩ :=
            (failure_job_iff htoml).mp hfailure
          exact .inr ⟨resolved, quitWord, cap, labelBranch, k, rfl, hcommand, hbreaks⟩
        · rintro (⟨failure, hfailure⟩ | ⟨_, quitWord, cap, labelBranch, k, -, hcommand, hbreaks⟩)
          · simp at hfailure
          · exact ⟨_, (failure_job_iff htoml).mpr
              ⟨rfl, quitWord, cap, labelBranch, k, hcommand, hbreaks⟩⟩
  · have hexecute := execute_of_error hfailure
    have haround : execute invocation around = _ := hexecute around.input
    refine ⟨by rw [haround]; rfl, by rw [haround]; rfl, unresolved_of_error hfailure,
      fun input => ?_⟩
    rw [hrun, hexecute input, haround]
  · have hexecute := execute_of_finds invocation hresolved
    have hjob : ((invocation.command?.getD .implied).job resolved).value
        = .session (resolved.styles.withLabelBranch labelBranch)
          ⟨quitWord, cap.map UInt64.toNat⟩ := by
      show (command.job resolved).value = _
      rw [hcommand]
      rfl
    rw [hjob] at hexecute
    refine ⟨?_, ?_⟩
    · rw [← output_session_of_notText _ hbreaks, ← hexecute]
      rfl
    · have hfailure := failure_session (resolved.styles.withLabelBranch labelBranch) hbreaks
      rw [← hexecute, if_pos rfl] at hfailure
      simp only [outcome, hfailure]
      rw [String.intercalate_cons_cons, String.intercalate_singleton]
      rfl

/-- Without a command, a label and an octet that is no text; a style file that is not there, for a
command that needs no styles; and a style file that is no TOML, of which the library says more. -/
theorem exitCode_eq_one_iff_of_octet :
    let words : TomlWords := fun _ _ => some "TOML parse error at line 1, column 2"
    let around := { Surroundings.withFile "f" "?" with tomlWords := words }
    Invocation.ofWords [] = .ok {}
      ∧ Invocation.ofWords ["-c", "x", "version"] = .ok { config := "x", command? := some .version }
      ∧ Invocation.ofWords ["-c", "f", "version"] = .ok { config := "f", command? := some .version }
      ∧ (∃ outcome, run [] (.bare (encode "a\n" ++ [255])) = .ok outcome ∧ outcome.exitCode = 1
          ∧ outcome.output
            = encode Session.prompt ++ Sink.blockOctets (({} : Styles).render "a").value
              ++ encode Session.prompt)
      ∧ (∃ outcome, run ["-c", "x", "version"] (.bare []) = .ok outcome ∧ outcome.exitCode = 1
          ∧ outcome.output = []
          ∧ outcome.errorText = some
            "error: failed to read style file: x: No such file or directory (os error 2)")
      ∧ ∃ outcome, run ["-c", "f", "version"] around = .ok outcome ∧ outcome.exitCode = 1
          ∧ outcome.output = []
          ∧ outcome.errorText = some
            ("error: invalid style file: f: failed to parse style TOML: "
              ++ "TOML parse error at line 1, column 2") := by
  intro words around
  have hwords : Invocation.ofWords [] = .ok {} := rfl
  have hwords' : Invocation.ofWords ["-c", "x", "version"]
      = .ok { config := "x", command? := some .version } := rfl
  have hwords'' : Invocation.ofWords ["-c", "f", "version"]
      = .ok { config := "f", command? := some .version } := rfl
  have hcut : inputLines (encode "a\n" ++ [255]) = [encode "a\n", [255]] := rfl
  have hlabel : Session.label? (encode "a\n") = some "a" :=
    Session.label?_eq_some_iff.mpr (.inr (.inl ⟨rfl, by decide⟩))
  have hstops : StopsAt ⟨none, none⟩ 0 (inputLines (encode "a\n" ++ [255])) 1 .notText := by
    rw [hcut]
    refine StopsAt.cons_succ_iff.mpr ⟨?_, StopsAt.zero_iff.mpr (by decide)⟩
    exact Session.ending?_eq_none_iff.mpr ⟨rfl, _, "a", rfl, hlabel, by decide⟩
  have hrenderings : renderings {} (encode "a\n" ++ [255]) 1
      = [(({} : Styles).render "a").value] := by
    simp [renderings, hcut, hlabel]
  refine ⟨hwords, hwords', hwords'', ?_, ?_, ?_⟩
  · obtain ⟨outcome, hrun, -, hiff, -, hbreaks, -⟩ :=
      exitCode_eq_one_iff hwords (.bare (encode "a\n" ++ [255]))
    have heffect := finds_bare (encode "a\n" ++ [255])
    refine ⟨outcome, hrun, hiff.mpr (.inr ⟨_, none, none, false, 1, heffect, rfl, hstops⟩), ?_⟩
    rw [(hbreaks _ none none false 1 heffect rfl hstops).1]
    show (renderings {} (encode "a\n" ++ [255]) 1).flatMap _ ++ _ = _
    rw [hrenderings]
    simp
  · obtain ⟨outcome, hrun, -, hiff, hnone, -⟩ := exitCode_eq_one_iff hwords' (.bare [])
    have heffect : ((Surroundings.bare []).resolve (some (Path.ofText "x"))).value
        = .error (.styles (.unreadable (Path.ofText "x") .notFound)) := rfl
    obtain ⟨houtput, herror, -⟩ := hnone _ heffect
    refine ⟨outcome, hrun, hiff.mpr (.inl ⟨_, heffect⟩), houtput, ?_⟩
    rw [herror]
    rfl
  · obtain ⟨outcome, hrun, -, hiff, hnone, -⟩ := exitCode_eq_one_iff hwords'' around
    have heffect : (around.resolve (some (Path.ofText "f"))).value
        = .error (.styles (.invalid (Path.ofText "f") .notToml)) := by
      with_unfolding_all rfl
    obtain ⟨houtput, herror, -⟩ := hnone _ heffect
    refine ⟨outcome, hrun, hiff.mpr (.inl ⟨_, heffect⟩), houtput, ?_⟩
    rw [herror]
    rfl

end Program

end CommentSeparator
