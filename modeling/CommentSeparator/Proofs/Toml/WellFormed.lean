import CommentSeparator.Toml.Document
import Mathlib.Data.List.Nodup
import Mathlib.Tactic.Common

/-!
# Documents are well-formed

`Value.WellFormed` says what the tree of a document always is, at every depth: no table has two
entries under one key, and no array of tables is empty.  The first makes "the value under a key"
mean something, the second tells an array of tables from an empty array.

**Statements keep it.**  Whatever a statement does is a change of one table, and `update?` carries
the change to the root, so `Table.WellFormed.update?` needs only that the change keeps it.
`assign?`, `header?` and `element?` are three such changes.

**Readers begin with it.**  The only values with parts are arrays and tables in braces, and these
are made of values that have been read (`wellFormed_of_read_value`).

**`wellFormed_of_ofText?`** is both together, for a whole text.
-/

namespace CommentSeparator.Toml

/-- No table of the tree has two entries under one key, and no array of tables is empty. -/
inductive Value.WellFormed : Value → Prop
  | string (text : String) : WellFormed (.string text)
  | integer (value : Int64) : WellFormed (.integer value)
  | float (value : Binary64) : WellFormed (.float value)
  | boolean (value : Bool) : WellFormed (.boolean value)
  | dateTime (text : String) : WellFormed (.dateTime text)
  | array {items : List Value} : (∀ item ∈ items, WellFormed item) → WellFormed (.array items)
  | tables {elements : List Table} : elements ≠ [] →
      (∀ element ∈ elements, (element.map Prod.fst).Nodup) →
      (∀ element ∈ elements, ∀ entry ∈ element, WellFormed entry.2) → WellFormed (.tables elements)
  | table {origin : Origin} {entries : Table} : (entries.map Prod.fst).Nodup →
      (∀ entry ∈ entries, WellFormed entry.2) → WellFormed (.table origin entries)

/-- A table that could stand in a well-formed tree. -/
structure Table.WellFormed (table : Table) : Prop where
  nodup : (table.map Prod.fst).Nodup
  entries : ∀ entry ∈ table, entry.2.WellFormed

namespace Value.WellFormed

lemma table_iff {origin : Origin} {entries : Table} :
    (Value.table origin entries).WellFormed ↔ Table.WellFormed entries := by
  constructor
  · rintro ⟨⟩
    constructor <;> assumption
  · exact fun h => .table h.nodup h.entries

lemma tables_iff {elements : List Table} :
    (Value.tables elements).WellFormed
      ↔ elements ≠ [] ∧ ∀ element ∈ elements, Table.WellFormed element := by
  constructor
  · intro h
    cases h with
    | tables hne hnodup hentries =>
        exact ⟨hne, fun element h => ⟨hnodup element h, hentries element h⟩⟩
  · rintro ⟨hne, h⟩
    exact .tables hne (fun element hmem => (h element hmem).nodup)
      fun element hmem => (h element hmem).entries

end Value.WellFormed

namespace Table

/-! ## Statements -/

lemma get?_eq_none_iff {table : Table} {key : String} :
    table.get? key = none ↔ key ∉ table.map Prod.fst := by
  rw [get?, List.lookup_eq_none_iff, List.mem_map]
  simp only [bne_iff_ne, ne_eq, not_exists, not_and]
  exact forall₂_congr fun entry _ => not_congr eq_comm

lemma mem_of_get?_eq_some {table : Table} {key : String} {value : Value}
    (h : table.get? key = some value) : (key, value) ∈ table := by
  obtain ⟨before, after, rfl, -⟩ := List.lookup_eq_some_iff.mp h
  simp

/-- Where no key occurs twice, an entry is what its key leads to. -/
lemma get?_of_mem {table : Table} (hnodup : (table.map Prod.fst).Nodup) {key : String}
    {value : Value} (hmem : (key, value) ∈ table) : table.get? key = some value := by
  obtain ⟨before, after, rfl⟩ := List.append_of_mem hmem
  rw [List.map_append, List.map_cons, List.nodup_append] at hnodup
  rw [get?, List.lookup_eq_some_iff]
  refine ⟨before, after, rfl, ?_⟩
  intro entry hentry
  have hne := hnodup.2.2 entry.1 (List.mem_map_of_mem hentry) key List.mem_cons_self
  simpa using hne.symm

lemma addNew?_eq_some_iff {table table' : Table} {key : String} {value : Value} :
    table.addNew? key value = some table'
      ↔ table.get? key = none ∧ table.add key value = table' := by
  have hhas : table.has key = true ↔ table.get? key ≠ none := by
    rw [ne_eq, get?_eq_none_iff, not_not, has, List.any_eq_true, List.mem_map]
    simp only [beq_iff_eq]
  rw [addNew?]
  split_ifs with hkey
  · simp [hhas.mp hkey]
  · simp [not_not.mp (mt hhas.mpr hkey)]

/-- A value that takes the place of another changes no key. -/
lemma keys_set (table : Table) (key : String) (value : Value) :
    (table.set key value).map Prod.fst = table.map Prod.fst := by
  rw [set, List.map_map]
  refine List.map_congr_left ?_
  intro entry _
  rw [Function.comp_apply]
  split_ifs with hkey
  · exact hkey.symm
  · rfl

namespace WellFormed

variable {table : Table} {key : String} {value : Value}

lemma nil : Table.WellFormed [] := ⟨List.nodup_nil, by simp⟩

lemma get? (h : table.WellFormed) (hget : table.get? key = some value) : value.WellFormed :=
  h.entries _ (mem_of_get?_eq_some hget)

lemma set (h : table.WellFormed) (hvalue : value.WellFormed) :
    (table.set key value).WellFormed := by
  constructor
  · rw [keys_set]
    exact h.nodup
  · intro entry hentry
    simp only [Table.set, List.mem_map] at hentry
    obtain ⟨old, hold, rfl⟩ := hentry
    split_ifs
    · exact hvalue
    · exact h.entries old hold

lemma add (h : table.WellFormed) (hnew : table.get? key = none) (hvalue : value.WellFormed) :
    (table.add key value).WellFormed := by
  constructor
  · rw [Table.add, List.map_append, List.map_singleton, List.nodup_append]
    refine ⟨h.nodup, List.nodup_singleton _, ?_⟩
    rintro old hold new hadded rfl
    obtain rfl := List.mem_singleton.mp hadded
    exact get?_eq_none_iff.mp hnew hold
  · intro entry hentry
    rw [Table.add, List.mem_append, List.mem_singleton] at hentry
    rcases hentry with hentry | rfl
    · exact h.entries entry hentry
    · exact hvalue

lemma erase (h : table.WellFormed) (key : String) : (table.erase key).WellFormed :=
  ⟨h.nodup.sublist (List.filter_sublist.map Prod.fst),
    fun entry hentry => h.entries entry (List.mem_of_mem_filter hentry)⟩

lemma get?_erase (table : Table) (key : String) : (table.erase key).get? key = none := by
  rw [get?_eq_none_iff, List.mem_map]
  rintro ⟨entry, hentry, rfl⟩
  simp [Table.erase] at hentry

/-- **A change of one table keeps the whole tree well-formed**, if it keeps that table so. -/
theorem update? {walk : Walk} {change : Origin → Table → Option Table}
    (hchange : ∀ {origin : Origin} {inner inner' : Table}, inner.WellFormed →
      change origin inner = some inner' → inner'.WellFormed) :
    ∀ (path : List String) {origin : Origin} {table table' : Table}, table.WellFormed →
      table.update? walk change path origin = some table' → table'.WellFormed := by
  intro path
  induction path with
  | nil => exact fun h hupdate => hchange h hupdate
  | cons key path ih =>
      intro origin table table' h hupdate
      rw [Table.update?] at hupdate
      split at hupdate
      · rename_i hget
        obtain ⟨inner, hinner, hpure⟩ := Option.bind_eq_some_iff.mp hupdate
        obtain rfl := Option.some.inj hpure
        exact h.add hget (Value.WellFormed.table_iff.mpr (ih nil hinner))
      · rename_i entries hget
        split at hupdate
        · obtain ⟨inner, hinner, hpure⟩ := Option.bind_eq_some_iff.mp hupdate
          obtain rfl := Option.some.inj hpure
          have hentries := Value.WellFormed.table_iff.mp (h.get? hget)
          exact h.set (Value.WellFormed.table_iff.mpr (ih hentries hinner))
        · simp at hupdate
      · rename_i elements hget
        obtain ⟨last, hlast, hrest⟩ := Option.bind_eq_some_iff.mp hupdate
        obtain ⟨inner, hinner, hpure⟩ := Option.bind_eq_some_iff.mp hrest
        obtain rfl := Option.some.inj hpure
        obtain ⟨-, helements⟩ := Value.WellFormed.tables_iff.mp (h.get? hget)
        have hwf := ih (helements last (List.mem_of_getLast? hlast)) hinner
        refine h.set (Value.WellFormed.tables_iff.mpr ⟨by simp, ?_⟩)
        intro element hmem
        rw [List.mem_append, List.mem_singleton] at hmem
        rcases hmem with hmem | rfl
        · exact helements element (List.dropLast_subset elements hmem)
        · exact hwf
      · simp at hupdate

lemma assign? (h : table.WellFormed) (hvalue : value.WellFormed) {path : KeyPath} {table' : Table}
    (hassign : table.assign? path value = some table') : table'.WellFormed := by
  refine update? (fun {origin inner inner'} hinner hchange => ?_) path.stem h hassign
  split_ifs at hchange
  obtain ⟨hnew, rfl⟩ := addNew?_eq_some_iff.mp hchange
  exact hinner.add hnew hvalue

lemma header? (h : table.WellFormed) {path : KeyPath} {table' : Table}
    (hheader : table.header? path = some table') : table'.WellFormed := by
  refine update? (fun {origin inner inner'} hinner hchange => ?_) path.stem h hheader
  split at hchange
  · rename_i hget
    obtain rfl := Option.some.inj hchange
    exact hinner.add hget (Value.WellFormed.table_iff.mpr nil)
  · -- the table was implied so far: its entries stay, and it moves to the end
    rename_i entries hget
    obtain rfl := Option.some.inj hchange
    have hentries := Value.WellFormed.table_iff.mp (hinner.get? hget)
    exact (hinner.erase path.leaf).add (get?_erase inner path.leaf)
      (Value.WellFormed.table_iff.mpr hentries)
  · simp at hchange

lemma element? (h : table.WellFormed) {path : KeyPath} {table' : Table}
    (helement : table.element? path = some table') : table'.WellFormed := by
  refine update? (fun {origin inner inner'} hinner hchange => ?_) path.stem h helement
  split at hchange
  · rename_i hget
    obtain rfl := Option.some.inj hchange
    exact hinner.add hget (Value.WellFormed.tables_iff.mpr ⟨by simp, by simp [nil]⟩)
  · rename_i elements hget
    obtain rfl := Option.some.inj hchange
    obtain ⟨-, helements⟩ := Value.WellFormed.tables_iff.mp (hinner.get? hget)
    refine hinner.set (Value.WellFormed.tables_iff.mpr ⟨by simp, ?_⟩)
    intro element hmem
    rw [List.mem_append, List.mem_singleton] at hmem
    rcases hmem with hmem | rfl
    · exact helements element hmem
    · exact nil
  · simp at hchange

/-- The assignments of a table in braces. -/
lemma ofAssignments? {assignments : List (KeyPath × Value)}
    (hvalues : ∀ assignment ∈ assignments, assignment.2.WellFormed) {table table' : Table}
    (h : table.WellFormed)
    (hfold : assignments.foldlM (fun table assignment =>
      Table.assign? table assignment.1 assignment.2) table = some table') : table'.WellFormed := by
  induction assignments generalizing table with
  | nil =>
      obtain rfl := Option.some.inj hfold
      exact h
  | cons assignment assignments ih =>
      obtain ⟨hvalue, hvalues⟩ := List.forall_mem_cons.mp hvalues
      obtain ⟨next, hnext, hfold⟩ := Option.bind_eq_some_iff.mp hfold
      exact ih hvalues (h.assign? hvalue hnext) hfold

end WellFormed

end Table

/-! ## Readers -/

namespace Reader

variable {α β : Type} {text rest : List Char}

lemma read_orElse {first second : Reader α} {found : α × List Char}
    (h : (first.orElse second).read text = some found) :
    first.read text = some found ∨ second.read text = some found := by
  cases hfirst : first.read text with
  | none => exact Or.inr (by simpa [Reader.orElse, hfirst] using h)
  | some other => exact Or.inl (by simpa [Reader.orElse, hfirst] using h)

lemma read_mapSome {reader : Reader α} {f : α → Option β} {result : β}
    (h : (reader.mapSome f).read text = some (result, rest)) :
    ∃ value, reader.read text = some (value, rest) ∧ f value = some result := by
  simp only [Reader.mapSome] at h
  split at h
  · simp at h
  · rename_i value left hread
    obtain ⟨other, hother, hpair⟩ := Option.map_eq_some_iff.mp h
    obtain ⟨rfl, rfl⟩ := Prod.mk.inj hpair
    exact ⟨value, hread, hother⟩

lemma read_map {reader : Reader α} {f : α → β} {result : β}
    (h : (reader.map f).read text = some (result, rest)) :
    ∃ value, reader.read text = some (value, rest) ∧ f value = result := by
  obtain ⟨value, hread, hvalue⟩ := read_mapSome h
  exact ⟨value, hread, Option.some.inj hvalue⟩

/-- An item of a listing has been read by the reader of items. -/
lemma read_itemAndEnd {item : Reader α} {skip : Skip} {closing : Char} {value : α} {more : Bool}
    (h : itemAndEnd item skip closing text = some ((value, more), rest)) :
    ∃ text rest, item.read text = some (value, rest) := by
  unfold itemAndEnd at h
  split at h
  · simp at h
  · rename_i other left hread
    have hvalue : other = value := by
      split at h
      · simp at h
      · split_ifs at h <;> simp_all
    exact ⟨_, left, hvalue ▸ hread⟩

lemma read_items {item : Reader α} {skip : Skip} {closing : Char} {trailing first : Bool}
    {values : List α} (h : items item skip closing trailing first text = some (values, rest)) :
    ∀ value ∈ values, ∃ text rest, item.read text = some (value, rest) := by
  induction first, text using items.induct item skip closing trailing generalizing values with
  | case1 first text hclosing =>
      rw [items, if_pos hclosing] at h
      simp only [Option.some.injEq, Prod.mk.injEq] at h
      simp [← h.1]
  | case2 first text hclosing hitem =>
      rw [items, if_neg hclosing] at h
      split at h <;> simp_all
  | case3 first text hclosing value left hitem =>
      rw [items, if_neg hclosing] at h
      split at h
      · simp at h
      · rename_i hfound
        simp only [Option.some.injEq, Prod.mk.injEq] at h
        rw [← h.1]
        simpa using read_itemAndEnd hfound
      · simp_all
  | case4 first text hclosing value left hitem ih =>
      rw [items, if_neg hclosing] at h
      split at h
      · simp at h
      · simp_all
      · rename_i hfound
        obtain ⟨more, hmore, hpair⟩ := Option.map_eq_some_iff.mp h
        rw [hitem] at hfound
        simp only [Option.some.injEq, Prod.mk.injEq] at hfound hpair
        have hmore' := @ih more.1 (by rw [hfound.2, ← hpair.2]; exact hmore)
        rw [← hpair.1, ← hfound.1.1]
        exact List.forall_mem_cons.mpr ⟨read_itemAndEnd hitem, hmore'⟩

lemma read_listing {item : Reader α} {skip : Skip} {opening closing : Char} {trailing : Bool}
    {values : List α}
    (h : (listing item skip opening closing trailing).read text = some (values, rest)) :
    ∀ value ∈ values, ∃ text rest, item.read text = some (value, rest) := by
  simp only [listing] at h
  split at h
  · simp at h
  · split_ifs at h
    exact read_items h

end Reader

lemma read_assignment {reader : Reader Value} {text rest : List Char} {found : KeyPath × Value}
    (h : (assignment reader).read text = some (found, rest)) :
    ∃ text, reader.read text = some (found.2, rest) := by
  simp only [assignment] at h
  split at h
  · rename_i path left hpath
    obtain ⟨inner, hread, hpair⟩ := Option.map_eq_some_iff.mp h
    obtain ⟨rfl, rfl⟩ := Prod.mk.inj hpair
    exact ⟨_, hread⟩
  · simp at h

lemma wellFormed_of_ofWord? {word : List Char} {value : Value}
    (h : Value.ofWord? word = some value) : value.WellFormed := by
  unfold Value.ofWord? at h
  split_ifs at h
  · exact Option.some.inj h ▸ .boolean true
  · exact Option.some.inj h ▸ .boolean false
  · exact Option.some.inj h ▸ .dateTime _
  · split at h
    · exact Option.some.inj h ▸ .float _
    · obtain ⟨n, -, rfl⟩ := Option.map_eq_some_iff.mp h
      exact .integer n

lemma wellFormed_of_read_scalar {text rest : List Char} {found : Value}
    (h : scalar.read text = some (found, rest)) : found.WellFormed := by
  rcases Reader.read_orElse h with h | h
  · obtain ⟨string, -, rfl⟩ := Reader.read_map h
    exact .string string
  · obtain ⟨word, -, hword⟩ := Reader.read_mapSome h
    exact wellFormed_of_ofWord? hword

/-- **What a value reader returns is well-formed**, by induction on the depth of brackets. -/
theorem wellFormed_of_read_value (depth : ℕ) : ∀ {text rest : List Char} {found : Value},
    (value depth).read text = some (found, rest) → found.WellFormed := by
  induction depth with
  | zero => exact wellFormed_of_read_scalar
  | succ depth ih =>
      intro text rest found h
      rcases Reader.read_orElse h with h | h
      · rcases Reader.read_orElse h with h | h
        · exact wellFormed_of_read_scalar h
        · obtain ⟨items, hitems, rfl⟩ := Reader.read_map h
          refine .array ?_
          intro item hmem
          obtain ⟨text, rest, hread⟩ := Reader.read_listing hitems item hmem
          exact ih hread
      · obtain ⟨assignments, hlisting, htable⟩ := Reader.read_mapSome h
        obtain ⟨entries, hentries, rfl⟩ := Option.map_eq_some_iff.mp htable
        refine Value.WellFormed.table_iff.mpr ?_
        refine Table.WellFormed.ofAssignments? ?_ .nil hentries
        intro assignment hmem
        obtain ⟨text, rest, hread⟩ := Reader.read_listing hlisting assignment hmem
        obtain ⟨text, hvalue⟩ := read_assignment hread
        exact ih hvalue

/-! ## Documents -/

/-- A statement that assigns a well-formed value, or none. -/
def Statement.WellFormed : Statement → Prop
  | .assign _ value => value.WellFormed
  | .table _ => True
  | .element _ => True

/-- What a statement assigns has been read by the reader of values. -/
lemma read_of_read_statement {text rest : List Char} {path : KeyPath} {assigned : Value}
    (h : statement.read text = some (.assign path assigned, rest)) :
    ∃ text, (value (nestingBound - 1)).read text = some (assigned, rest) := by
  rcases Reader.read_orElse h with h | h
  · rcases Reader.read_orElse h with h | h
    · obtain ⟨path, -, ⟨⟩⟩ := Reader.read_map h
    · obtain ⟨path, -, ⟨⟩⟩ := Reader.read_map h
  · obtain ⟨found, hread, hfound⟩ := Reader.read_map h
    obtain ⟨-, rfl⟩ := Statement.assign.inj hfound
    exact read_assignment hread

lemma wellFormed_of_read_statement {text rest : List Char} {found : Statement}
    (h : statement.read text = some (found, rest)) : found.WellFormed := by
  cases found with
  | assign path assigned =>
      obtain ⟨text, hvalue⟩ := read_of_read_statement h
      exact wellFormed_of_read_value _ hvalue
  | _ => trivial

lemma read_of_read_line {text rest : List Char} {found : Option Statement}
    (h : line.read text = some (found, rest)) :
    ∀ other ∈ found, ∃ text rest, statement.read text = some (other, rest) := by
  simp only [line] at h
  split at h
  · simp at h
  · split at h
    · simp only [Option.some.injEq, Prod.mk.injEq] at h
      simp [← h.1]
    · split at h
      · simp at h
      · rename_i first left hread
        obtain ⟨final, -, hpair⟩ := Option.map_eq_some_iff.mp h
        simp only [Prod.mk.injEq] at hpair
        rintro other hother
        rw [← hpair.1, Option.mem_def, Option.some.injEq] at hother
        exact ⟨_, left, hother ▸ hread⟩

/-- Every statement of a text has been read by the reader of statements. -/
lemma read_of_statements? {text : List Char} {found : List Statement}
    (h : statements? text = some found) :
    ∀ other ∈ found, ∃ text rest, statement.read text = some (other, rest) := by
  induction text using statements?.induct generalizing found with
  | case1 =>
      rw [statements?, if_pos rfl] at h
      simp [← Option.some.inj h]
  | case2 text htext hline =>
      rw [statements?, if_neg htext] at h
      split at h <;> simp_all
  | case3 text htext first rest hline ih =>
      rw [statements?, if_neg htext] at h
      split at h
      · simp at h
      · rename_i hline'
        rw [hline, Option.some.injEq, Prod.mk.injEq] at hline'
        obtain ⟨rfl, rfl⟩ := hline'
        obtain ⟨more, hmore, rfl⟩ := Option.map_eq_some_iff.mp h
        intro other hmem
        rw [List.mem_append, Option.mem_toList] at hmem
        rcases hmem with hmem | hmem
        · exact read_of_read_line hline other hmem
        · exact ih hmore other hmem

lemma wellFormed_of_statements? {text : List Char} {found : List Statement}
    (h : statements? text = some found) : ∀ statement ∈ found, statement.WellFormed := by
  intro statement hmem
  obtain ⟨text, rest, hread⟩ := read_of_statements? h statement hmem
  exact wellFormed_of_read_statement hread

lemma Draft.wellFormed_of_add? {draft draft' : Draft} {statement : Statement}
    (hstatement : statement.WellFormed) (h : draft.root.WellFormed)
    (hadd : draft.add? statement = some draft') : draft'.root.WellFormed := by
  cases statement with
  | assign path value =>
      obtain ⟨root, hroot, hpure⟩ := Option.bind_eq_some_iff.mp hadd
      obtain rfl := Option.some.inj hpure
      exact Table.WellFormed.update?
        (fun hinner hassign => hinner.assign? hstatement hassign) draft.current h hroot
  | table path =>
      obtain ⟨root, hroot, hpure⟩ := Option.bind_eq_some_iff.mp hadd
      obtain rfl := Option.some.inj hpure
      exact h.header? hroot
  | element path =>
      obtain ⟨root, hroot, hpure⟩ := Option.bind_eq_some_iff.mp hadd
      obtain rfl := Option.some.inj hpure
      exact h.element? hroot

lemma Draft.wellFormed_of_foldlM {statements : List Statement}
    (hstatements : ∀ statement ∈ statements, statement.WellFormed) {draft draft' : Draft}
    (h : draft.root.WellFormed) (hfold : statements.foldlM Draft.add? draft = some draft') :
    draft'.root.WellFormed := by
  induction statements generalizing draft with
  | nil =>
      obtain rfl := Option.some.inj hfold
      exact h
  | cons statement statements ih =>
      obtain ⟨hstatement, hstatements⟩ := List.forall_mem_cons.mp hstatements
      obtain ⟨next, hnext, hfold⟩ := Option.bind_eq_some_iff.mp hfold
      exact ih hstatements (wellFormed_of_add? hstatement h hnext) hfold

/-- **Every document is well-formed**: the table that a text writes has at every depth one entry
for each key, and no empty array of tables. -/
theorem wellFormed_of_ofText? {text : String} {table : Table}
    (h : Table.ofText? text = some table) : table.WellFormed := by
  obtain ⟨statements, hstatements, htable⟩ := Option.bind_eq_some_iff.mp h
  obtain ⟨draft, hfold, rfl⟩ := Option.map_eq_some_iff.mp htable
  exact Draft.wellFormed_of_foldlM (wellFormed_of_statements? hstatements)
    Table.WellFormed.nil hfold

end CommentSeparator.Toml
