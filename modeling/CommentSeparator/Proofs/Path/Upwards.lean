import CommentSeparator.Path
import Mathlib.Data.List.Basic

/-!
# The way up

Lexical parents are taken from the written form of a path, and a path can be written in many ways:
with separators at its end, with several of them in a row, with dots.  `steps` is what all of this
says: the segments that name a step.  **A parent has one step less** (`steps_of_parent?`), and a
path without steps has no parent (`parent?_eq_none_iff`).

So the way up from a path has as many parents as there are steps, whatever else is written, and it
never comes by the same place again (`pairwise_upwards`).  It ends at the root or at the empty path;
only a path that has no steps in the first place may be written in another way
(`eq_of_parent?_eq_none`).
-/

namespace CommentSeparator.Path

/-! ## Steps -/

/-- Is a segment more than nothing and a dot? -/
def namesStep (segment : String) : Bool :=
  segment ≠ "" && segment ≠ "."

/-- The steps of a path: its segments without the idle ones.  A dot is a step where a relative path
begins with it. -/
def steps (path : Path) : List String :=
  (if path.absolute = false ∧ path.segments.head? = some "." then ["."] else [])
    ++ path.segments.filter namesStep

/-- Is a segment idle behind others? -/
def IsIdle (absolute : Bool) (segment : String) (earlier : List String) : Prop :=
  segment = "" ∨ (segment = "." ∧ (absolute ∨ earlier ≠ []))

instance (absolute : Bool) (segment : String) (earlier : List String) :
    Decidable (IsIdle absolute segment earlier) :=
  inferInstanceAs (Decidable (_ ∨ _))

lemma dropIdle_cons (absolute : Bool) (segment : String) (earlier : List String) :
    dropIdle absolute (segment :: earlier)
      = if IsIdle absolute segment earlier then dropIdle absolute earlier
        else segment :: earlier := by
  rw [dropIdle]
  rfl

/-- One segment more is one step more, unless it is idle. -/
lemma steps_concat (absolute : Bool) (earlier : List String) (segment : String) :
    steps ⟨absolute, earlier ++ [segment]⟩
      = steps ⟨absolute, earlier⟩ ++ if IsIdle absolute segment earlier then [] else [segment] := by
  cases earlier with
  | nil =>
      -- the segment is the first one, so a dot is idle in an absolute path only
      by_cases hdot : segment = "."
      · subst hdot
        cases absolute <;> simp [steps, IsIdle, namesStep]
      · by_cases hempty : segment = "" <;> simp [steps, IsIdle, namesStep, hdot, hempty]
  | cons first more =>
      have hidle : IsIdle absolute segment (first :: more) ↔ namesStep segment = false := by
        by_cases hempty : segment = "" <;> simp [IsIdle, namesStep, hempty]
      have hmore : steps ⟨absolute, (first :: more) ++ [segment]⟩
          = steps ⟨absolute, first :: more⟩ ++ [segment].filter namesStep := by
        simp only [steps, List.filter_append, List.append_assoc]
        rfl
      rw [hmore]
      cases hstep : namesStep segment <;> simp [hidle, hstep]

lemma steps_reverse_cons (absolute : Bool) (segment : String) (earlier : List String) :
    steps ⟨absolute, (segment :: earlier).reverse⟩
      = steps ⟨absolute, earlier.reverse⟩
        ++ if IsIdle absolute segment earlier then [] else [segment] := by
  have hidle : IsIdle absolute segment earlier.reverse ↔ IsIdle absolute segment earlier := by
    simp [IsIdle]
  simp only [List.reverse_cons, steps_concat, hidle]

/-- Idle segments are no steps. -/
lemma steps_dropIdle (absolute : Bool) (segments : List String) :
    steps ⟨absolute, (dropIdle absolute segments).reverse⟩
      = steps ⟨absolute, segments.reverse⟩ := by
  induction segments with
  | nil => rfl
  | cons segment earlier ih =>
      rw [dropIdle_cons]
      split_ifs with hidle
      · rw [ih, steps_reverse_cons, if_pos hidle, List.append_nil]
      · rfl

/-- What is left begins with a segment that is not idle. -/
lemma not_isIdle_of_dropIdle {absolute : Bool} {segments earlier : List String} {segment : String}
    (h : dropIdle absolute segments = segment :: earlier) : ¬ IsIdle absolute segment earlier := by
  induction segments with
  | nil => simp [dropIdle] at h
  | cons found before ih =>
      rw [dropIdle_cons] at h
      split_ifs at h with hidle
      · exact ih h
      · obtain ⟨rfl, rfl⟩ := List.cons.inj h
        exact hidle

/-! ## Parents -/

/-- What a parent is: the path without its last step, and with nothing idle at its end. -/
lemma parent?_eq_some {path parent : Path} (h : path.parent? = some parent) :
    ∃ step earlier, dropIdle path.absolute path.segments.reverse = step :: earlier
      ∧ parent = ⟨path.absolute, (dropIdle path.absolute earlier).reverse⟩ := by
  unfold parent? at h
  split at h
  · simp at h
  · rename_i step earlier hdrop
    exact ⟨step, earlier, hdrop, (Option.some.inj h).symm⟩

lemma absolute_of_parent? {path parent : Path} (h : path.parent? = some parent) :
    parent.absolute = path.absolute := by
  obtain ⟨-, -, -, rfl⟩ := parent?_eq_some h
  rfl

/-- **A parent has one step less**, the last one. -/
theorem steps_of_parent? {path parent : Path} (h : path.parent? = some parent) :
    ∃ step, path.steps = parent.steps ++ [step] := by
  obtain ⟨step, earlier, hdrop, rfl⟩ := parent?_eq_some h
  have hpath := steps_dropIdle path.absolute path.segments.reverse
  rw [hdrop, List.reverse_reverse, steps_reverse_cons, if_neg (not_isIdle_of_dropIdle hdrop)]
    at hpath
  exact ⟨step, by rw [steps_dropIdle]; exact hpath.symm⟩

lemma length_steps_of_parent? {path parent : Path} (h : path.parent? = some parent) :
    path.steps.length = parent.steps.length + 1 := by
  obtain ⟨step, hsteps⟩ := steps_of_parent? h
  rw [hsteps, List.length_append, List.length_singleton]

/-- A path has a parent just if it has a step. -/
lemma parent?_eq_none_iff {path : Path} : path.parent? = none ↔ path.steps = [] := by
  constructor
  · intro h
    have hpath := steps_dropIdle path.absolute path.segments.reverse
    unfold parent? at h
    split at h
    · rename_i hdrop
      rw [hdrop, List.reverse_reverse] at hpath
      exact hpath.symm.trans (by simp [steps])
    · simp at h
  · intro hsteps
    cases hparent : path.parent? with
    | none => rfl
    | some parent =>
        obtain ⟨step, hsome⟩ := steps_of_parent? hparent
        simp [hsteps] at hsome

/-- A parent has no idle segments at its end, so if it has no parent either, nothing is left. -/
lemma eq_of_parent?_eq_none {path parent : Path} (h : path.parent? = some parent)
    (htop : parent.parent? = none) : parent = ⟨path.absolute, []⟩ := by
  obtain ⟨step, earlier, -, rfl⟩ := parent?_eq_some h
  rw [parent?_eq_none_iff] at htop
  cases hdrop : dropIdle path.absolute earlier with
  | nil => rfl
  | cons last before =>
      rw [hdrop, steps_reverse_cons, if_neg (not_isIdle_of_dropIdle hdrop)] at htop
      simp at htop

/-! ## Names below a path -/

lemma not_isIdle_of_namesStep {segment : String} (h : namesStep segment = true) (absolute : Bool)
    (earlier : List String) : ¬ IsIdle absolute segment earlier := by
  simp only [namesStep, Bool.and_eq_true, decide_eq_true_eq] at h
  simp [IsIdle, h]

/-- A name is put behind the segments of a path.  Where these end with a separator, none is put in
between. -/
lemma join_name (path : Path) (name : String) :
    path.join ⟨false, [name]⟩
      = ⟨path.absolute, (if path.segments.getLast? = some "" then path.segments.dropLast
          else path.segments) ++ [name]⟩ := by
  by_cases hnil : path.segments = []
  · simp [join, hnil]
  · simp [join, hnil]

/-- A name below a path is one step more. -/
lemma steps_join (path : Path) {name : String} (hname : namesStep name = true) :
    (path.join ⟨false, [name]⟩).steps = path.steps ++ [name] := by
  rw [join_name, steps_concat, if_neg (not_isIdle_of_namesStep hname _ _)]
  split_ifs with hlast
  · -- a separator at the end is no step
    have hsegments : path.segments.dropLast ++ [""] = path.segments :=
      List.dropLast_append_getLast? "" hlast
    have hsteps := steps_concat path.absolute path.segments.dropLast ""
    rw [hsegments, if_pos (.inl rfl), List.append_nil] at hsteps
    rw [← hsteps]
  · rfl

/-- The parent of a path and a name below it is the path, if nothing idle stands between. -/
lemma parent?_join {path : Path} {name : String}
    (hpath : ∀ last ∈ path.segments.getLast?, namesStep last = true)
    (hname : namesStep name = true) : (path.join ⟨false, [name]⟩).parent? = some path := by
  have hstays : ∀ segment earlier, namesStep segment = true →
      dropIdle path.absolute (segment :: earlier) = segment :: earlier := by
    intro segment earlier hstep
    rw [dropIdle_cons, if_neg (not_isIdle_of_namesStep hstep _ _)]
  have hlast : path.segments.getLast? ≠ some "" := fun hlast =>
    absurd (hpath "" hlast) (by decide)
  have hrest : dropIdle path.absolute path.segments.reverse = path.segments.reverse := by
    cases hreverse : path.segments.reverse with
    | nil => rfl
    | cons last before =>
        refine hstays last before (hpath last ?_)
        rw [← List.head?_reverse, hreverse]
        rfl
  rw [join_name, if_neg hlast, parent?, List.reverse_concat, hstays name _ hname]
  simp [hrest]

/-- A name of an entry: it is not empty, not a dot, and has no separator in it. -/
structure IsName (name : String) : Prop where
  nonempty : name ≠ ""
  noDot : name ≠ "."
  noSeparator : '/' ∉ name.toList

lemma IsName.namesStep {name : String} (h : IsName name) : namesStep name = true := by
  simp [Path.namesStep, h.nonempty, h.noDot]

lemma splitSlash_of_notMem {text : List Char} (h : '/' ∉ text) : splitSlash text = [text] := by
  induction text with
  | nil => rfl
  | cons c rest ih =>
      rw [List.mem_cons, not_or] at h
      obtain ⟨hc, hrest⟩ := h
      rw [splitSlash, if_neg (Ne.symm hc), ih hrest]

/-- A name is written as itself. -/
lemma ofText_of_isName {name : String} (h : IsName name) : ofText name = ⟨false, [name]⟩ := by
  have hne : name.toList ≠ [] := by simpa using h.nonempty
  unfold ofText
  split
  · rename_i rest hname
    exact absurd (hname ▸ List.mem_cons_self) h.noSeparator
  · rw [segmentsOf, if_neg hne, splitSlash_of_notMem h.noSeparator]
    simp

/-! ## All the way up -/

/-- The parent of the parent, and so on, so many times. -/
def ancestor? (path : Path) : ℕ → Option Path
  | 0 => some path
  | count + 1 => path.parent?.bind fun parent => parent.ancestor? count

/-- The way up is the path, its parent, the parent of that, and so on. -/
lemma getElem?_upwards (path : Path) (i : ℕ) : path.upwards[i]? = path.ancestor? i := by
  induction i generalizing path with
  | zero => rw [upwards_eq]; rfl
  | succ i ih =>
      rw [upwards_eq, List.getElem?_cons_succ, ancestor?]
      cases path.parent? with
      | none => rfl
      | some parent => exact ih parent

/-- There are as many parents on the way up as the path has steps. -/
lemma length_upwards (path : Path) : path.upwards.length = path.steps.length + 1 := by
  induction path using upwards.induct with
  | case1 path ih =>
      rw [upwards_eq, List.length_cons]
      cases hparent : path.parent? with
      | none =>
          rw [parent?_eq_none_iff.mp hparent]
          rfl
      | some parent =>
          rw [Option.elim_some, ih parent hparent, length_steps_of_parent? hparent]

/-- So many parents up, as many steps are gone. -/
lemma steps_of_ancestor? {path top : Path} {count : ℕ} (h : path.ancestor? count = some top) :
    top.absolute = path.absolute
      ∧ top.steps = path.steps.take (path.steps.length - count) := by
  induction count generalizing path with
  | zero =>
      obtain rfl : path = top := Option.some.inj h
      simp
  | succ count ih =>
      obtain ⟨parent, hparent, htop⟩ := Option.bind_eq_some_iff.mp h
      obtain ⟨habsolute, hsteps⟩ := ih htop
      obtain ⟨step, hstep⟩ := steps_of_parent? hparent
      refine ⟨habsolute.trans (absolute_of_parent? hparent), ?_⟩
      rw [hsteps, hstep, List.length_append, List.length_singleton, Nat.add_sub_add_right,
        List.take_append_of_le_length (Nat.sub_le _ _)]

/-- The way up ends at the root or the empty path, or it does not go anywhere. -/
lemma eq_of_top {path top : Path} {count : ℕ} (h : path.ancestor? count = some top)
    (htop : top.parent? = none) : top = path ∨ top = ⟨path.absolute, []⟩ := by
  induction count generalizing path with
  | zero => exact .inl (Option.some.inj h).symm
  | succ count ih =>
      obtain ⟨parent, hparent, habove⟩ := Option.bind_eq_some_iff.mp h
      rcases ih habove with rfl | rfl
      · exact .inr (eq_of_parent?_eq_none hparent htop)
      · exact .inr (by rw [absolute_of_parent? hparent])

/-- On the way up steps are lost, and none is found again. -/
lemma pairwise_upwards (path : Path) :
    path.upwards.Pairwise fun lower higher => higher.steps.length < lower.steps.length := by
  induction path using upwards.induct with
  | case1 path ih =>
      rw [upwards_eq]
      cases hparent : path.parent? with
      | none => simp
      | some parent =>
          rw [Option.elim_some, List.pairwise_cons]
          refine ⟨fun higher hhigher => ?_, ih parent hparent⟩
          obtain ⟨i, hi⟩ := List.getElem?_of_mem hhigher
          rw [getElem?_upwards] at hi
          rw [(steps_of_ancestor? hi).2, length_steps_of_parent? hparent, List.length_take]
          omega

end CommentSeparator.Path
