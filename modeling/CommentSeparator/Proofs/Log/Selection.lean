import CommentSeparator.Log.Filter
import Mathlib.Data.List.Induction
import Mathlib.Data.Prod.Lex
import Mathlib.Data.String.Basic
import Mathlib.Order.WithBot
import Mathlib.Tactic.Common

/-!
# Which events get through a filter

A filter goes through its directives with the best one so far in hand.  What comes out of this is
**the last of the most specific directives about the event** (`deciding?_eq_some_iff`): directives
are ordered by the length of their target first, and a directive with a longer target decides,
wherever it stands.

The filter in effect is the one that was set, if that can be read, or else the one that a count of
`-v` stands for (`effective_eq_iff`).  The filters for a count let the events through that are
urgent enough, whatever their target (`passes_default_iff`), so a greater count only lets more of
them through.
-/

namespace CommentSeparator

namespace Directive

/-- What directives about one event are compared by: how long the target is, and then the field. -/
def rank (directive : Directive) : ℕ ×ₗ WithBot String :=
  toLex (directive.target.length, directive.field)

lemma fieldBefore_some_iff {field other : String} :
    fieldBefore (some field) (some other) = true ↔ field < other := by
  have hchars : (fun c d : Char => Nat.blt c.toNat d.toNat = true) = fun c d => c < d := by
    funext c d
    simp only [Nat.blt_eq, eq_iff_iff]
    exact Iff.rfl
  simp only [fieldBefore]
  rw [List.lex_eq_true_iff_lex, hchars]
  exact Iff.rfl

lemma fieldBefore_iff {field other : WithBot String} :
    fieldBefore field other = true ↔ field < other := by
  cases field with
  | bot =>
      cases other with
      | bot => simp [fieldBefore]
      | coe other => simp [fieldBefore]
  | coe field =>
      cases other with
      | bot => simp [fieldBefore]
      | coe other => exact fieldBefore_some_iff.trans WithBot.coe_lt_coe.symm

/-- Being less specific is a linear order on what directives are compared by. -/
lemma lessSpecific_iff {directive other : Directive} :
    directive.lessSpecific other = true ↔ directive.rank < other.rank := by
  rw [rank, rank, Prod.Lex.toLex_lt_toLex, ← fieldBefore_iff]
  simp [lessSpecific]

end Directive

namespace Filter

variable {filter : Filter} {event : Event} {directive : Directive}

/-! ## The directive that decides -/

/-- The last of the most specific directives about an event. -/
def Decides (filter : Filter) (event : Event) (directive : Directive) : Prop :=
  directive.concerns event = true
    ∧ ∃ earlier later, filter = earlier ++ directive :: later
      ∧ (∀ other ∈ earlier, other.concerns event = true → other.rank ≤ directive.rank)
      ∧ ∀ other ∈ later, other.concerns event = true → other.rank < directive.rank

namespace Decides

/-- No directive about the event is more specific than the one that decides. -/
lemma rank_le (h : filter.Decides event directive) {other : Directive} (hmem : other ∈ filter)
    (hconcerns : other.concerns event = true) : other.rank ≤ directive.rank := by
  obtain ⟨-, earlier, later, rfl, hearlier, hlater⟩ := h
  rcases List.mem_append.mp hmem with hmem | hmem
  · exact hearlier other hmem hconcerns
  · rcases List.mem_cons.mp hmem with rfl | hmem
    · exact le_refl _
    · exact le_of_lt (hlater other hmem hconcerns)

/-- A directive behind the others does not change who decides, if it is less specific or about
other events. -/
lemma concat (h : filter.Decides event directive) {last : Directive}
    (hlast : last.concerns event = true → last.rank < directive.rank) :
    Decides (filter ++ [last]) event directive := by
  obtain ⟨hconcerns, earlier, later, rfl, hearlier, hlater⟩ := h
  refine ⟨hconcerns, earlier, later ++ [last], by simp, hearlier, fun other hother => ?_⟩
  rcases List.mem_append.mp hother with hother | hother
  · exact hlater other hother
  · obtain rfl := List.mem_singleton.mp hother
    exact hlast

/-- A directive behind the others decides, if it is about the event and none is more specific. -/
lemma of_last {last : Directive} (hconcerns : last.concerns event = true)
    (hle : ∀ other ∈ filter, other.concerns event = true → other.rank ≤ last.rank) :
    Decides (filter ++ [last]) event last :=
  ⟨hconcerns, filter, [], rfl, hle, by simp⟩

/-- One directive decides. -/
lemma unique {other : Directive} (h : filter.Decides event directive)
    (hother : filter.Decides event other) : directive = other := by
  obtain ⟨hconcerns, earlier, later, hfilter, hearlier, hlater⟩ := h
  obtain ⟨hconcerns', earlier', later', hfilter', hearlier', hlater'⟩ := hother
  -- of two that decide, the later is less specific, and at least as specific
  rcases List.append_eq_append_iff.mp (hfilter.symm.trans hfilter') with
    ⟨between, rfl, hmore⟩ | ⟨between, rfl, hmore⟩
  · cases between with
    | nil => exact (List.cons.inj hmore).1
    | cons first between =>
        obtain ⟨rfl, rfl⟩ := List.cons.inj hmore
        have hlt := hlater other (by simp) hconcerns'
        have hle := hearlier' directive (by simp) hconcerns
        exact absurd hlt (not_lt_of_ge hle)
  · cases between with
    | nil => exact (List.cons.inj hmore).1.symm
    | cons first between =>
        obtain ⟨rfl, rfl⟩ := List.cons.inj hmore
        have hlt := hlater' directive (by simp) hconcerns
        have hle := hearlier other (by simp) hconcerns'
        exact absurd hlt (not_lt_of_ge hle)

end Decides

/-- One directive more: it decides if it is about the event, and not less specific than the one that
has decided so far. -/
lemma deciding?_concat (filter : Filter) (last : Directive) (event : Event) :
    deciding? (filter ++ [last]) event
      = if last.concerns event = true ∧ (filter.deciding? event).any last.lessSpecific = false then
          some last
        else filter.deciding? event := by
  have hstep : ∀ best : Option Directive, (if best.any last.lessSpecific then best else some last)
      = if best.any last.lessSpecific = false then some last else best := by
    intro best
    cases best.any last.lessSpecific <;> rfl
  rw [deciding?, List.filter_append]
  cases hconcerns : last.concerns event with
  | false => simp [hconcerns, deciding?]
  | true =>
      have hsingle : [last].filter (fun directive => directive.concerns event) = [last] := by
        simp [hconcerns]
      rw [hsingle, List.foldl_append, List.foldl_cons, List.foldl_nil, hstep]
      simp [deciding?]

/-- What is in hand behind all directives: the one that decides, or none where none is about the
event. -/
lemma deciding?_spec (filter : Filter) (event : Event) :
    (∀ directive, deciding? filter event = some directive → Decides filter event directive)
      ∧ (deciding? filter event = none → ∀ other ∈ filter, other.concerns event = false) := by
  induction filter using List.reverseRecOn with
  | nil => exact ⟨fun directive h => by simp [deciding?] at h, fun _ => by simp⟩
  | append_singleton filter last ih =>
      obtain ⟨hsome, hnone⟩ := ih
      rw [deciding?_concat]
      by_cases hlast : last.concerns event = true
          ∧ (deciding? filter event).any last.lessSpecific = false
      · rw [if_pos hlast]
        obtain ⟨hconcerns, hbest⟩ := hlast
        refine ⟨fun directive h => ?_, fun h => by simp at h⟩
        obtain rfl := Option.some.inj h
        refine .of_last hconcerns fun other hmem hother => ?_
        cases hdeciding : deciding? filter event with
        | none => simp [hnone hdeciding other hmem] at hother
        | some best =>
            have hle : best.rank ≤ last.rank := by
              rw [← not_lt, ← Directive.lessSpecific_iff]
              simpa [hdeciding] using hbest
            exact le_trans ((hsome best hdeciding).rank_le hmem hother) hle
      · rw [if_neg hlast]
        rw [not_and, Bool.not_eq_false] at hlast
        refine ⟨fun directive h => (hsome directive h).concat fun hconcerns => ?_, fun h => ?_⟩
        · have hless := hlast hconcerns
          rw [h, Option.any_some] at hless
          exact Directive.lessSpecific_iff.mp hless
        · have hno : last.concerns event = false := by
            rw [← Bool.not_eq_true]
            intro hconcerns
            simpa [h] using hlast hconcerns
          simpa [or_imp, forall_and, hno] using hnone h

/-- **The last of the most specific directives decides.** -/
theorem deciding?_eq_some_iff :
    filter.deciding? event = some directive ↔ filter.Decides event directive := by
  obtain ⟨hsome, hnone⟩ := deciding?_spec filter event
  refine ⟨hsome directive, fun h => ?_⟩
  cases hdeciding : filter.deciding? event with
  | none =>
      obtain ⟨hconcerns, earlier, later, rfl, -⟩ := h
      simp [hnone hdeciding directive (by simp)] at hconcerns
  | some best => rw [(hsome best hdeciding).unique h]

/-- An event gets through if the directive that decides wants its level. -/
lemma passes_iff :
    filter.passes event = true
      ↔ ∃ directive, filter.Decides event directive
          ∧ directive.threshold.allows event.level = true := by
  rw [passes, Option.any_eq_true]
  simp only [deciding?_eq_some_iff]

/-! ## The filter in effect -/

/-- The filter in effect is the one that was set, if it can be read.  If nothing was set, or nothing
that can be read, it is the one that the text for the count of `-v` describes. -/
inductive InEffect (verbosity : UInt8) : Option String → Filter → Prop where
  | set {setting : String} {filter : Filter} (valid : ofSetting? setting = some filter) :
      InEffect verbosity (some setting) filter
  | invalid {setting : String} {filter : Filter} (invalid : ofSetting? setting = none)
      (counted : ofSetting? (defaultText verbosity) = some filter) :
      InEffect verbosity (some setting) filter
  | unset {filter : Filter} (counted : ofSetting? (defaultText verbosity) = some filter) :
      InEffect verbosity none filter

/-- The filter for a count is what its text describes. -/
lemma ofSetting?_defaultText (verbosity : UInt8) :
    ofSetting? (defaultText verbosity) = some (default verbosity) := by
  unfold defaultText default defaultLevel
  split_ifs <;> rfl

lemma effective_eq_iff {setting : Option String} {verbosity : UInt8} :
    effective setting verbosity = filter ↔ InEffect verbosity setting filter := by
  have hcounted := ofSetting?_defaultText verbosity
  constructor
  · rintro rfl
    cases setting with
    | none => exact .unset hcounted
    | some setting =>
        cases hread : ofSetting? setting with
        | none => simpa [effective, hread] using .invalid hread hcounted
        | some filter => simpa [effective, hread] using .set hread
  · intro h
    cases h with
    | set hread => simp [effective, hread]
    | invalid hread hcounted' => simpa [effective, hread, hcounted] using hcounted'
    | unset hcounted' => simpa [effective, hcounted] using hcounted'

/-! ## The filters for a count -/

lemma isPrefixOf_target (event : Event) :
    programTarget.toList.isPrefixOf event.target.toList = true := by
  cases event <;> simp [programTarget, Event.target]

/-- With a filter for a count, the level alone decides. -/
lemma passes_default_iff {verbosity : UInt8} :
    (default verbosity).passes event = true
      ↔ event.level.rank ≤ (defaultLevel verbosity).rank := by
  simp [default, passes, deciding?, Directive.concerns, isPrefixOf_target, Threshold.allows]

/-- Warnings are logged in any case, and a count of two is enough for everything there is. -/
lemma rank_defaultLevel (verbosity : UInt8) :
    (defaultLevel verbosity).rank = min (verbosity.toNat + 2) 4 := by
  unfold defaultLevel
  split_ifs with hzero hone
  · obtain rfl := hzero
    rfl
  · obtain rfl := hone
    rfl
  · rw [← UInt8.toNat_inj] at hzero hone
    simp only [UInt8.reduceToNat] at hzero hone
    show 4 = _
    omega

/-- **A greater count only lets more events through**, and keeps them in order. -/
lemma sublist_of_le {few many : UInt8} (h : few ≤ many) (events : List Event) :
    (events.filter (default few).passes).Sublist (events.filter (default many).passes) := by
  refine List.monotone_filter_right events fun event hpasses => ?_
  rw [passes_default_iff, rank_defaultLevel] at hpasses ⊢
  rw [UInt8.le_iff_toNat_le] at h
  omega

end Filter

end CommentSeparator
