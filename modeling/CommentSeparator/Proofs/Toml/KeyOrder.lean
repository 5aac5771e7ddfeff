import CommentSeparator.Proofs.Toml.SameData
import Mathlib.Data.List.Induction

/-!
# The order of keys

The entries of a table have an order, and it comes from the statements that write the table.  A
statement mentions keys, from the root of the document to what it writes (`Mention`), and the order
of the keys of a table is told from these mentions alone (`keyOrder`).

**First mention, and one exception.**  A key that is mentioned for the first time is added behind
all others, and it stays there.  Only a header moves a key: if its table has been mentioned on the
way to other tables before, the table now gets its place (`place`).  Without such late headers, keys
stand in the order of first mention (`keyOrder_eq_firstMentions`).

* `Steps` — what one statement does to the keys of a table, and of the tables below it.
* `Ordered` — the keys of a document and of its tables stand in the order of mention.

**`inOrder_of_ofText?`** is the result for texts.  A table in braces is one value of one assignment,
and has its own order from the assignments between the braces (`InBraces.ordered`).
-/

namespace CommentSeparator.Toml

/-! ## Mentions -/

/-- What a statement does at the last of the keys that it mentions. -/
inductive Effect where
  | assign (value : Value)
  | table
  | element

/-- The keys that a statement mentions, from a table to what it writes in or below that table. -/
structure Mention where
  path : List String
  effect : Effect

/-- What a statement mentions, if assignments go into the given table. -/
def Statement.mention (current : List String) : Statement → Mention
  | .assign path value => ⟨current ++ path.keys, .assign value⟩
  | .table path => ⟨path.keys, .table⟩
  | .element path => ⟨path.keys, .element⟩

/-- Where assignments go after a statement. -/
def Statement.next (current : List String) : Statement → List String
  | .assign _ _ => current
  | .table path => path.keys
  | .element path => path.keys

/-- What statements mention, in order. -/
def mentions (current : List String) : List Statement → List Mention
  | [] => []
  | statement :: statements =>
    statement.mention current :: mentions (statement.next current) statements

/-- What assignments between braces mention. -/
def mentionsInBraces (assignments : List (KeyPath × Value)) : List Mention :=
  assignments.map fun assignment => ⟨assignment.1.keys, .assign assignment.2⟩

/-- What a text mentions, if its lines can be read. -/
def mentionsIn? (text : String) : Option (List Mention) :=
  (statements? (withoutMark text.toList)).map (mentions [])

/-- Mentions of keys below a key. -/
def below (key : String) (mentions : List Mention) : List Mention :=
  mentions.filterMap fun mention =>
    match mention.path with
    | [] => none
    | first :: path => if first = key then some ⟨path, mention.effect⟩ else none

/-- A key behind all others, if it is new. -/
def insertNew (keys : List String) (key : String) : List String :=
  if key ∈ keys then keys else keys ++ [key]

/-- The order of keys after one more mention. -/
def place (keys : List String) : Mention → List String
  | ⟨[], _⟩ => keys
  | ⟨[key], .table⟩ => keys.filter (· ≠ key) ++ [key]
  | ⟨key :: _, _⟩ => insertNew keys key

/-- The order of keys that is told from mentions. -/
def keyOrder (mentions : List Mention) : List String :=
  mentions.foldl place []

/-- The keys in the order in which they are first mentioned. -/
def firstMentions (mentions : List Mention) : List String :=
  (mentions.filterMap fun mention => mention.path.head?).foldl insertNew []

/-- A table is mentioned on the way to other tables before its own header comes. -/
def HasLateHeader (mentions : List Mention) : Prop :=
  ∃ before key after, mentions = before ++ ⟨[key], .table⟩ :: after ∧ key ∈ firstMentions before

lemma place_of_notMem {keys : List String} {key : String} (h : key ∉ keys) (path : List String)
    (effect : Effect) : place keys ⟨key :: path, effect⟩ = keys ++ [key] := by
  have hnew : insertNew keys key = keys ++ [key] := if_neg h
  have hkept : keys.filter (· ≠ key) = keys := by
    rw [List.filter_eq_self]
    intro other hother
    simpa using fun heq : other = key => h (heq ▸ hother)
  cases path with
  | nil =>
      cases effect with
      | table => exact congrArg (· ++ [key]) hkept
      | _ => exact hnew
  | cons next path => exact hnew

/-- Only a header moves a key. -/
lemma place_of_mem {keys : List String} {key : String} (h : key ∈ keys) {path : List String}
    {effect : Effect} (hstays : path = [] → effect ≠ .table) :
    place keys ⟨key :: path, effect⟩ = keys := by
  cases path with
  | nil =>
      cases effect with
      | table => exact absurd rfl (hstays rfl)
      | _ => exact if_pos h
  | cons next path => exact if_pos h

lemma mem_place (keys : List String) (key : String) (path : List String) (effect : Effect) :
    key ∈ place keys ⟨key :: path, effect⟩ := by
  by_cases h : key ∈ keys
  · by_cases hmoves : path = [] ∧ effect = .table
    · obtain ⟨rfl, rfl⟩ := hmoves
      exact List.mem_append_right _ List.mem_cons_self
    · rw [place_of_mem h fun hpath heffect => hmoves ⟨hpath, heffect⟩]
      exact h
  · rw [place_of_notMem h]
    exact List.mem_append_right _ List.mem_cons_self

lemma keyOrder_append (mentions more : List Mention) :
    keyOrder (mentions ++ more) = more.foldl place (keyOrder mentions) :=
  List.foldl_append

/-- **Without late headers keys stand in the order of first mention.** -/
theorem keyOrder_eq_firstMentions {mentions : List Mention} (h : ¬ HasLateHeader mentions) :
    keyOrder mentions = firstMentions mentions := by
  induction mentions using List.reverseRecOn with
  | nil => rfl
  | append_singleton mentions mention ih =>
      have hbefore : ¬ HasLateHeader mentions := by
        rintro ⟨before, key, after, rfl, hkey⟩
        exact h ⟨before, key, after ++ [mention], by simp, hkey⟩
      rw [keyOrder_append, ih hbefore]
      conv_rhs => rw [firstMentions, List.filterMap_append, List.foldl_append, ← firstMentions]
      obtain ⟨path, effect⟩ := mention
      cases path with
      | nil => rfl
      | cons key path =>
          by_cases hkey : key ∈ firstMentions mentions
          · refine (place_of_mem hkey ?_).trans (if_pos hkey).symm
            rintro rfl rfl
            exact h ⟨mentions, key, [], rfl, hkey⟩
          · exact (place_of_notMem hkey path effect).trans (if_neg hkey).symm

/-! ## Entries below an entry -/

/-- A table that is spread over statements, and not written in braces. -/
def Value.IsSpread : Value → Prop
  | .table origin _ => origin ≠ .inline
  | _ => False

/-- A value that one statement writes as a whole. -/
def Value.IsWhole : Value → Prop
  | .table origin _ => origin = .inline
  | .tables _ => False
  | _ => True

lemma Value.IsWhole.not_isSpread {value : Value} (h : value.IsWhole) : ¬ value.IsSpread := by
  cases value with
  | table origin entries => exact fun hspread => hspread h
  | _ => exact id

/-- The entries of a table. -/
def Value.entries : Value → Table
  | .table _ entries => entries
  | _ => []

namespace Table

variable {table : Table} {key : String}

/-- The entries of the table under a key. -/
def entriesUnder (table : Table) (key : String) : Table :=
  (table.get? key).elim [] Value.entries

lemma keys_add (table : Table) (key : String) (value : Value) :
    (table.add key value).map Prod.fst = table.map Prod.fst ++ [key] := by
  rw [add, List.map_append, List.map_singleton]

lemma keys_erase (table : Table) (key : String) :
    (table.erase key).map Prod.fst = (table.map Prod.fst).filter (· ≠ key) := by
  rw [erase, List.filter_map]
  rfl

lemma get?_cons (entry : String × Value) (table : Table) (key : String) :
    Table.get? (entry :: table) key = if key = entry.1 then some entry.2 else table.get? key := by
  rw [get?, List.lookup_cons]
  split_ifs with h
  · rw [h, beq_self_eq_true]
  · rw [beq_false_of_ne h]
    rfl

lemma get?_set_self (hkey : table.get? key ≠ none) (value : Value) :
    (table.set key value).get? key = some value := by
  induction table with
  | nil => exact absurd rfl hkey
  | cons entry table ih =>
      rw [set, List.map_cons, get?_cons]
      by_cases hentry : entry.1 = key
      · rw [if_pos hentry, if_pos rfl]
      · rw [get?_cons, if_neg (Ne.symm hentry)] at hkey
        rw [if_neg hentry, if_neg (Ne.symm hentry)]
        exact ih hkey

lemma get?_set_of_ne {other : String} (hother : other ≠ key) (value : Value) :
    (table.set key value).get? other = table.get? other := by
  induction table with
  | nil => rfl
  | cons entry table ih =>
      rw [set, List.map_cons, get?_cons, get?_cons]
      by_cases hentry : entry.1 = key
      · rw [if_pos hentry, if_neg hother, if_neg (hentry ▸ hother)]
        exact ih
      · rw [if_neg hentry]
        exact congrArg _ ih

lemma get?_erase_of_ne {other : String} (hother : other ≠ key) :
    (table.erase key).get? other = table.get? other := by
  induction table with
  | nil => rfl
  | cons entry table ih =>
      rw [erase, List.filter_cons, get?_cons]
      by_cases hentry : entry.1 = key
      · rw [if_neg (by simpa using hentry), if_neg (hentry ▸ hother)]
        exact ih
      · rw [if_pos (by simpa using hentry), get?_cons]
        exact congrArg _ ih

end Table

/-! ## What one statement does -/

/-- **What a mention does to a table.**  It places its first key, leaves what is under other keys as
it is, and goes on with the entries below its first key, where these are a table that is spread over
statements.  A whole value comes from an assignment. -/
structure Steps (key : String) (path : List String) (effect : Effect) (table table' : Table) :
    Prop where
  keys : table'.map Prod.fst = place (table.map Prod.fst) ⟨key :: path, effect⟩
  others : ∀ other, other ≠ key → table'.get? other = table.get? other
  whole : ∀ value, table'.get? key = some value → value.IsWhole →
    path = [] ∧ effect = .assign value
  below : ∀ value, table'.get? key = some value → value.IsSpread →
    (∀ old, table.get? key = some old → old.IsSpread)
      ∧ value.entries.map Prod.fst
        = place ((table.entriesUnder key).map Prod.fst) ⟨path, effect⟩

namespace Steps

variable {key : String} {path : List String} {effect : Effect} {table : Table} {value old : Value}

/-- A new entry. -/
lemma add (hnew : table.get? key = none)
    (hwhole : value.IsWhole → path = [] ∧ effect = .assign value)
    (hspread : value.IsSpread → value.entries.map Prod.fst = place [] ⟨path, effect⟩) :
    Steps key path effect table (table.add key value) where
  keys := by rw [Table.keys_add, place_of_notMem (Table.get?_eq_none_iff.mp hnew)]
  others other hother := by rw [Table.get?_add hnew, if_neg hother]
  whole found hfound := by
    rw [Table.get?_add hnew, if_pos rfl] at hfound
    exact Option.some.inj hfound ▸ hwhole
  below found hfound := by
    rw [Table.get?_add hnew, if_pos rfl] at hfound
    obtain rfl := Option.some.inj hfound
    refine fun hvalue => ⟨by simp [hnew], ?_⟩
    rw [Table.entriesUnder, hnew]
    exact hspread hvalue

/-- Another value under the same key. -/
lemma set (hold : table.get? key = some old) (hstays : path = [] → effect ≠ .table)
    (hwhole : ¬ value.IsWhole)
    (hspread : value.IsSpread → old.IsSpread
      ∧ value.entries.map Prod.fst = place (old.entries.map Prod.fst) ⟨path, effect⟩) :
    Steps key path effect table (table.set key value) where
  keys := by
    have hmem : key ∈ table.map Prod.fst := by
      by_contra hmem
      simp [Table.get?_eq_none_iff.mpr hmem] at hold
    rw [Table.keys_set, place_of_mem hmem hstays]
  others other hother := Table.get?_set_of_ne hother value
  whole found hfound := by
    rw [Table.get?_set_self (by simp [hold])] at hfound
    exact Option.some.inj hfound ▸ fun hvalue => absurd hvalue hwhole
  below found hfound := by
    rw [Table.get?_set_self (by simp [hold])] at hfound
    obtain rfl := Option.some.inj hfound
    intro hvalue
    obtain ⟨hspread', hkeys⟩ := hspread hvalue
    rw [Table.entriesUnder, hold]
    exact ⟨fun found hfound => Option.some.inj hfound ▸ hspread', hkeys⟩

/-- A table that gets its place by its header, with the entries that it has had before. -/
lemma move (hold : table.get? key = some old) (hspread : old.IsSpread)
    (hwhole : ¬ value.IsWhole) (hentries : value.entries = old.entries) :
    Steps key [] .table table ((table.erase key).add key value) where
  keys := by
    rw [Table.keys_add, Table.keys_erase]
    rfl
  others other hother := by
    rw [Table.get?_add (Table.WellFormed.get?_erase table key), if_neg hother,
      Table.get?_erase_of_ne hother]
  whole found hfound := by
    rw [Table.get?_add (Table.WellFormed.get?_erase table key), if_pos rfl] at hfound
    exact Option.some.inj hfound ▸ fun hvalue => absurd hvalue hwhole
  below found hfound _ := by
    rw [Table.get?_add (Table.WellFormed.get?_erase table key), if_pos rfl] at hfound
    obtain rfl := Option.some.inj hfound
    rw [Table.entriesUnder, hold]
    exact ⟨fun found hfound => Option.some.inj hfound ▸ hspread, congrArg _ hentries⟩

end Steps

/-- What a mention does to a table.  It mentions one key at least. -/
def Mention.Takes (mention : Mention) (table table' : Table) : Prop :=
  ∃ key path, mention.path = key :: path ∧ Steps key path mention.effect table table'

namespace Table

/-- **A change below a table takes the whole path**, from the table to what is changed. -/
theorem takes_update? {walk : Walk} {change : Origin → Table → Option Table} (mention : Mention)
    (hchange : ∀ {origin : Origin} {inner inner' : Table}, change origin inner = some inner' →
      mention.Takes inner inner') :
    ∀ (path : List String) {origin : Origin} {table table' : Table},
      table.update? walk change path origin = some table' →
      Mention.Takes ⟨path ++ mention.path, mention.effect⟩ table table' := by
  intro path
  induction path with
  | nil => exact fun hupdate => hchange hupdate
  | cons key path ih =>
      intro origin table table' hupdate
      refine ⟨key, path ++ mention.path, rfl, ?_⟩
      rw [update?] at hupdate
      split at hupdate
      · rename_i hget
        obtain ⟨inner, hinner, hpure⟩ := Option.bind_eq_some_iff.mp hupdate
        obtain rfl := Option.some.inj hpure
        obtain ⟨next, later, hpath, hsteps⟩ := ih hinner
        rw [show path ++ mention.path = next :: later from hpath]
        refine .add hget (fun hwhole => ?_) fun _ => hsteps.keys
        -- no walk makes a table in braces
        cases walk <;> simp [Value.IsWhole, Walk.origin] at hwhole
      · rename_i entries hget
        split at hupdate
        · rename_i henters
          obtain ⟨inner, hinner, hpure⟩ := Option.bind_eq_some_iff.mp hupdate
          obtain rfl := Option.some.inj hpure
          obtain ⟨next, later, hpath, hsteps⟩ := ih hinner
          rw [show path ++ mention.path = next :: later from hpath]
          refine .set hget (by simp) ?_ fun hspread => ⟨hspread, hsteps.keys⟩
          rintro rfl
          cases walk <;> simp [Walk.enters] at henters
        · simp at hupdate
      · rename_i elements hget
        obtain ⟨last, hlast, hrest⟩ := Option.bind_eq_some_iff.mp hupdate
        obtain ⟨inner, hinner, hpure⟩ := Option.bind_eq_some_iff.mp hrest
        obtain rfl := Option.some.inj hpure
        obtain ⟨next, later, hpath, -⟩ := ih hinner
        rw [show path ++ mention.path = next :: later from hpath]
        exact .set hget (by simp) id False.elim
      · simp at hupdate

variable {table table' : Table} {path : KeyPath} {value : Value}

lemma takes_assign? (hvalue : ¬ value.IsSpread)
    (hassign : table.assign? path value = some table') :
    Mention.Takes ⟨path.keys, .assign value⟩ table table' := by
  refine takes_update? ⟨[path.leaf], .assign value⟩ ?_ path.stem hassign
  intro origin inner inner' hchange
  split_ifs at hchange
  obtain ⟨hnew, rfl⟩ := addNew?_eq_some_iff.mp hchange
  exact ⟨_, _, rfl, .add hnew (fun _ => ⟨rfl, rfl⟩) fun hspread => absurd hspread hvalue⟩

lemma takes_header? (hheader : table.header? path = some table') :
    Mention.Takes ⟨path.keys, .table⟩ table table' := by
  refine takes_update? ⟨[path.leaf], .table⟩ ?_ path.stem hheader
  intro origin inner inner' hchange
  refine ⟨_, _, rfl, ?_⟩
  split at hchange
  · rename_i hget
    obtain rfl := Option.some.inj hchange
    exact .add hget (by simp [Value.IsWhole]) fun _ => rfl
  · rename_i entries hget
    obtain rfl := Option.some.inj hchange
    exact .move hget (by simp [Value.IsSpread]) (by simp [Value.IsWhole]) rfl
  · simp at hchange

lemma takes_element? (helement : table.element? path = some table') :
    Mention.Takes ⟨path.keys, .element⟩ table table' := by
  refine takes_update? ⟨[path.leaf], .element⟩ ?_ path.stem helement
  intro origin inner inner' hchange
  refine ⟨_, _, rfl, ?_⟩
  split at hchange
  · rename_i hget
    obtain rfl := Option.some.inj hchange
    exact .add hget False.elim False.elim
  · rename_i elements hget
    obtain rfl := Option.some.inj hchange
    exact .set hget (by simp) id False.elim
  · simp at hchange

end Table

/-- A statement that assigns a whole value, if it assigns one. -/
def Statement.AssignsWhole : Statement → Prop
  | .assign _ value => value.IsWhole
  | _ => True

/-- **A statement does what it mentions.** -/
lemma Draft.takes_add? {draft draft' : Draft} {statement : Statement}
    (hwhole : statement.AssignsWhole) (hadd : draft.add? statement = some draft') :
    draft'.current = statement.next draft.current
      ∧ (statement.mention draft.current).Takes draft.root draft'.root := by
  cases statement with
  | assign path value =>
      obtain ⟨root, hroot, hpure⟩ := Option.bind_eq_some_iff.mp hadd
      obtain rfl := Option.some.inj hpure
      have htakes := Table.takes_update? ⟨path.keys, .assign value⟩
        (Table.takes_assign? hwhole.not_isSpread) draft.current hroot
      exact ⟨rfl, htakes⟩
  | table path =>
      obtain ⟨root, hroot, hpure⟩ := Option.bind_eq_some_iff.mp hadd
      obtain rfl := Option.some.inj hpure
      exact ⟨rfl, Table.takes_header? hroot⟩
  | element path =>
      obtain ⟨root, hroot, hpure⟩ := Option.bind_eq_some_iff.mp hadd
      obtain rfl := Option.some.inj hpure
      exact ⟨rfl, Table.takes_element? hroot⟩

/-! ## Documents -/

/-- The keys of a document, and those of its tables that are spread over statements, stand in the
order that is told from mentions.  A whole value is one that is assigned to its key. -/
structure Ordered (mentions : List Mention) (document : Table) : Prop where
  root : document.map Prod.fst = keyOrder mentions
  parts : ∀ key, (∀ value, document.get? key = some value → value.IsSpread) →
    (document.entriesUnder key).map Prod.fst = keyOrder (below key mentions)
  whole : ∀ key value, document.get? key = some value → value.IsWhole →
    ⟨[key], .assign value⟩ ∈ mentions

namespace Ordered

variable {before : List Mention} {table table' : Table} {mention : Mention}

lemma nil : Ordered [] [] where
  root := rfl
  parts _ _ := rfl
  whole _ _ hvalue := by simp [Table.get?] at hvalue

/-- One more mention. -/
lemma step (h : Ordered before table) (htakes : mention.Takes table table') :
    Ordered (before ++ [mention]) table' := by
  obtain ⟨keys, effect⟩ := mention
  obtain ⟨first, path, rfl, hsteps⟩ := htakes
  constructor
  · rw [keyOrder_append, ← h.root]
    exact hsteps.keys
  · intro key hspread
    rw [below, List.filterMap_append, keyOrder_append, ← below]
    by_cases hkey : key = first
    · subst hkey
      have hmem : key ∈ table'.map Prod.fst := hsteps.keys ▸ mem_place _ _ _ _
      obtain ⟨value, hvalue⟩ : ∃ value, table'.get? key = some value := by
        rw [← Option.ne_none_iff_exists', ne_eq, Table.get?_eq_none_iff, not_not]
        exact hmem
      obtain ⟨hold, hkeys⟩ := hsteps.below value hvalue (hspread value hvalue)
      rw [Table.entriesUnder, hvalue, ← h.parts key hold]
      simpa using hkeys
    · have hother : table'.get? key = table.get? key := hsteps.others key hkey
      rw [hother] at hspread
      rw [Table.entriesUnder, hother, ← Table.entriesUnder, h.parts key hspread]
      simp [Ne.symm hkey]
  · intro key value hvalue hwhole
    by_cases hkey : key = first
    · subst hkey
      obtain ⟨rfl, rfl⟩ := hsteps.whole value hvalue hwhole
      exact List.mem_append_right _ List.mem_cons_self
    · rw [hsteps.others key hkey] at hvalue
      exact List.mem_append_left _ (h.whole key value hvalue hwhole)

/-- All mentions of some statements. -/
lemma foldlM {statements : List Statement}
    (hwhole : ∀ statement ∈ statements, statement.AssignsWhole) {draft draft' : Draft}
    (h : Ordered before draft.root) (hfold : statements.foldlM Draft.add? draft = some draft') :
    Ordered (before ++ mentions draft.current statements) draft'.root := by
  induction statements generalizing before draft with
  | nil =>
      obtain rfl := Option.some.inj hfold
      rw [mentions, List.append_nil]
      exact h
  | cons statement statements ih =>
      obtain ⟨hstatement, hstatements⟩ := List.forall_mem_cons.mp hwhole
      obtain ⟨next, hnext, hrest⟩ := Option.bind_eq_some_iff.mp hfold
      obtain ⟨hcurrent, htakes⟩ := Draft.takes_add? hstatement hnext
      rw [mentions, ← hcurrent, List.append_cons]
      exact ih hstatements (h.step htakes) hrest

/-- All mentions of the assignments between braces. -/
lemma assignments {assignments : List (KeyPath × Value)}
    (hwhole : ∀ assignment ∈ assignments, assignment.2.IsWhole) (h : Ordered before table)
    (hfold : assignments.foldlM (fun table assignment => table.assign? assignment.1 assignment.2)
      table = some table') :
    Ordered (before ++ mentionsInBraces assignments) table' := by
  induction assignments generalizing before table with
  | nil =>
      obtain rfl := Option.some.inj hfold
      rw [mentionsInBraces, List.map_nil, List.append_nil]
      exact h
  | cons assignment assignments ih =>
      obtain ⟨hassignment, hassignments⟩ := List.forall_mem_cons.mp hwhole
      obtain ⟨next, hnext, hrest⟩ := Option.bind_eq_some_iff.mp hfold
      rw [mentionsInBraces, List.map_cons, List.append_cons]
      exact ih hassignments (h.step (Table.takes_assign? hassignment.not_isSpread hnext)) hrest

end Ordered

/-! ## Texts -/

/-- The assignments that are read between braces and make a table. -/
def InBraces (assignments : List (KeyPath × Value)) (table : Table) : Prop :=
  Table.ofAssignments? assignments = some table
    ∧ ∃ depth text rest,
      (Reader.listing (assignment (value depth)) skipSpace '\x7b' '\x7d' false).read text
        = some (assignments, rest)

/-- A value without brackets. -/
def Value.IsScalar : Value → Prop
  | .array _ => False
  | .table _ _ => False
  | .tables _ => False
  | _ => True

lemma isScalar_of_read_scalar {text rest : List Char} {found : Value}
    (h : scalar.read text = some (found, rest)) : found.IsScalar := by
  rcases Reader.read_orElse h with h | h
  · obtain ⟨string, -, rfl⟩ := Reader.read_map h
    trivial
  · obtain ⟨word, -, hword⟩ := Reader.read_mapSome h
    unfold Value.ofWord? at hword
    split_ifs at hword
    · exact Option.some.inj hword ▸ trivial
    · exact Option.some.inj hword ▸ trivial
    · exact Option.some.inj hword ▸ trivial
    · split at hword
      · exact Option.some.inj hword ▸ trivial
      · obtain ⟨n, -, rfl⟩ := Option.map_eq_some_iff.mp hword
        trivial

/-- A value that is read is a scalar, an array or a table in braces. -/
lemma cases_of_read_value {depth : ℕ} {text rest : List Char} {found : Value}
    (h : (value depth).read text = some (found, rest)) :
    found.IsScalar ∨ (∃ items, found = .array items)
      ∨ ∃ assignments entries, found = .table .inline entries
        ∧ InBraces assignments entries := by
  cases depth with
  | zero => exact .inl (isScalar_of_read_scalar h)
  | succ depth =>
      rcases Reader.read_orElse h with h | h
      · rcases Reader.read_orElse h with h | h
        · exact .inl (isScalar_of_read_scalar h)
        · obtain ⟨items, -, rfl⟩ := Reader.read_map h
          exact .inr (.inl ⟨items, rfl⟩)
      · obtain ⟨assignments, hread, htable⟩ := Reader.read_mapSome h
        obtain ⟨entries, hentries, rfl⟩ := Option.map_eq_some_iff.mp htable
        exact .inr (.inr ⟨assignments, entries, rfl, hentries, depth, text, rest, hread⟩)

/-- A value that is read is written as a whole. -/
lemma isWhole_of_read_value {depth : ℕ} {text rest : List Char} {found : Value}
    (h : (value depth).read text = some (found, rest)) : found.IsWhole := by
  rcases cases_of_read_value h with hscalar | ⟨items, rfl⟩ | ⟨assignments, entries, rfl, -⟩
  · cases found with
    | array items => trivial
    | table origin entries => exact hscalar.elim
    | tables elements => exact hscalar.elim
    | _ => trivial
  · trivial
  · rfl

/-- **The keys of a table in braces stand in the order of mention** between the braces. -/
lemma InBraces.ordered {assignments : List (KeyPath × Value)} {table : Table}
    (h : InBraces assignments table) :
    Ordered (mentionsInBraces assignments) table := by
  obtain ⟨htable, depth, text, rest, hlisting⟩ := h
  refine Ordered.nil.assignments (fun assignment hmem => ?_) htable
  obtain ⟨text, rest, hread⟩ := Reader.read_listing hlisting assignment hmem
  obtain ⟨text, hvalue⟩ := read_assignment hread
  exact isWhole_of_read_value hvalue

/-- What is mentioned as assigned is assigned by a statement. -/
lemma exists_assign_of_mem_mentions {current path : List String} {assigned : Value}
    {statements : List Statement} (h : ⟨path, .assign assigned⟩ ∈ mentions current statements) :
    ∃ path, .assign path assigned ∈ statements := by
  induction statements generalizing current with
  | nil => simp [mentions] at h
  | cons statement statements ih =>
      rcases List.mem_cons.mp h with heq | hmem
      · cases statement with
        | assign own value =>
            obtain ⟨-, heffect⟩ := Mention.mk.inj heq
            obtain rfl := Effect.assign.inj heffect
            exact ⟨own, List.mem_cons_self⟩
        | _ => simp [Statement.mention] at heq
      · obtain ⟨own, hown⟩ := ih hmem
        exact ⟨own, List.mem_cons_of_mem _ hown⟩

/-- **The order of a document that a text writes.**  The keys stand in the order of mention, which
is that of first mention if no header comes late; and between braces it is the order there. -/
structure InOrder (text : String) (document : Table) : Prop where
  ordered : ∃ mentions, mentionsIn? text = some mentions ∧ Ordered mentions document
    ∧ (¬ HasLateHeader mentions → document.map Prod.fst = firstMentions mentions)
  braces : ∀ key entries, document.get? key = some (.table .inline entries) →
    ∃ assignments, InBraces assignments entries ∧ Ordered (mentionsInBraces assignments) entries

/-- **What a text writes stands in order.** -/
theorem inOrder_of_ofText? {text : String} {document : Table}
    (h : Table.ofText? text = some document) : InOrder text document := by
  obtain ⟨statements, hstatements, htable⟩ := Option.bind_eq_some_iff.mp h
  obtain ⟨draft, hfold, rfl⟩ := Option.map_eq_some_iff.mp htable
  have hread : ∀ path assigned, .assign path assigned ∈ statements →
      ∃ text rest, (value (nestingBound - 1)).read text = some (assigned, rest) := by
    intro path assigned hmem
    obtain ⟨text, rest, hstatement⟩ := read_of_statements? hstatements _ hmem
    obtain ⟨text, hvalue⟩ := read_of_read_statement hstatement
    exact ⟨text, rest, hvalue⟩
  have hwhole : ∀ statement ∈ statements, statement.AssignsWhole := by
    intro statement hmem
    cases statement with
    | assign path assigned =>
        obtain ⟨text, rest, hvalue⟩ := hread path assigned hmem
        exact isWhole_of_read_value hvalue
    | _ => trivial
  have hordered : Ordered (mentions [] statements) draft.root := Ordered.nil.foldlM hwhole hfold
  constructor
  · exact ⟨_, by rw [mentionsIn?, hstatements, Option.map_some], hordered,
      fun hearly => hordered.root.trans (keyOrder_eq_firstMentions hearly)⟩
  · intro key entries hentries
    obtain ⟨path, hmem⟩ := exists_assign_of_mem_mentions (hordered.whole _ _ hentries rfl)
    obtain ⟨text, rest, hvalue⟩ := hread path _ hmem
    rcases cases_of_read_value hvalue with
      hscalar | ⟨items, hitems⟩ | ⟨assignments, _, heq, hbraces⟩
    · exact hscalar.elim
    · simp at hitems
    · obtain ⟨-, rfl⟩ := Value.table.inj heq
      exact ⟨assignments, hbraces, hbraces.ordered⟩

end CommentSeparator.Toml
