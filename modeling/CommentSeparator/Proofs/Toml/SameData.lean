import CommentSeparator.Proofs.Toml.WellFormed

/-!
# Documents with the same data

Two documents may be written differently and still say the same: their tables may stand in another
order, or be written under headers, with dots or in braces.  `Value.Same` leaves out just that.  A
table is what its keys lead to, without an order and without an origin; an array is its items in
order.
-/

namespace CommentSeparator.Toml

/-- The same data: equal scalars, arrays with the same items, tables with the same entries. -/
inductive Value.Same : Value → Value → Prop
  | string (text : String) : Same (.string text) (.string text)
  | integer (value : Int64) : Same (.integer value) (.integer value)
  | float (value : Binary64) : Same (.float value) (.float value)
  | boolean (value : Bool) : Same (.boolean value) (.boolean value)
  | dateTime (text : String) : Same (.dateTime text) (.dateTime text)
  | array {items items' : List Value} : items.length = items'.length →
      (∀ (i : ℕ) (a b : Value), items[i]? = some a → items'[i]? = some b → Same a b) →
      Same (.array items) (.array items')
  | tables {elements elements' : List Table} : elements.length = elements'.length →
      (∀ (i : ℕ) (a b : Table), elements[i]? = some a → elements'[i]? = some b →
        Same (.table .defined a) (.table .defined b)) →
      Same (.tables elements) (.tables elements')
  | table {origin origin' : Origin} {entries entries' : Table} :
      (∀ key, entries.get? key = none ↔ entries'.get? key = none) →
      (∀ key a b, entries.get? key = some a → entries'.get? key = some b → Same a b) →
      Same (.table origin entries) (.table origin' entries')

/-- Tables with the same keys, and the same data under each. -/
structure Table.Same (table table' : Table) : Prop where
  keys : ∀ key, table.get? key = none ↔ table'.get? key = none
  values : ∀ key a b, table.get? key = some a → table'.get? key = some b → a.Same b

namespace Value.Same

lemma table_iff {origin origin' : Origin} {entries entries' : Table} :
    Value.Same (.table origin entries) (.table origin' entries') ↔ Table.Same entries entries' := by
  constructor
  · rintro ⟨⟩
    constructor <;> assumption
  · exact fun h => .table h.keys h.values

lemma symm {a b : Value} (h : a.Same b) : b.Same a := by
  induction h with
  | array hlength _ ih => exact .array hlength.symm fun i a b ha hb => ih i b a hb ha
  | tables hlength _ ih => exact .tables hlength.symm fun i a b ha hb => ih i b a hb ha
  | table hkeys _ ih =>
      exact .table (fun key => (hkeys key).symm) fun key a b ha hb => ih key b a hb ha
  | _ => constructor

lemma trans {a b c : Value} (h : a.Same b) (h' : b.Same c) : a.Same c := by
  induction h generalizing c with
  | @array items items' hlength _ ih =>
      cases h' with
      | array hlength' hitems' =>
          refine .array (hlength.trans hlength') ?_
          intro i a c ha hc
          obtain ⟨hi, -⟩ := List.getElem?_eq_some_iff.mp ha
          have hb := List.getElem?_eq_getElem (hlength ▸ hi)
          exact ih i a _ ha hb (hitems' i _ c hb hc)
  | @tables elements elements' hlength _ ih =>
      cases h' with
      | tables hlength' helements' =>
          refine .tables (hlength.trans hlength') ?_
          intro i a c ha hc
          obtain ⟨hi, -⟩ := List.getElem?_eq_some_iff.mp ha
          have hb := List.getElem?_eq_getElem (hlength ▸ hi)
          exact ih i a _ ha hb (helements' i _ c hb hc)
  | @table _ _ entries entries' hkeys _ ih =>
      cases h' with
      | table hkeys' hvalues' =>
          refine .table (fun key => (hkeys key).trans (hkeys' key)) ?_
          intro key a c ha hc
          cases hb : entries'.get? key with
          | none => simp [(hkeys key).mpr hb] at ha
          | some b => exact ih key a b ha hb (hvalues' key b c hb hc)
  | _ => exact h'

/-- Every value holds the data that it holds. -/
protected theorem refl : ∀ value : Value, value.Same value
  | .string text => .string text
  | .integer value => .integer value
  | .float value => .float value
  | .boolean value => .boolean value
  | .dateTime text => .dateTime text
  | .array items => by
      refine .array rfl ?_
      intro i a b ha hb
      obtain rfl := Option.some.inj (ha.symm.trans hb)
      have hmem := List.mem_of_getElem? ha
      exact Same.refl a
  | .tables elements => by
      refine .tables rfl ?_
      intro i a b ha hb
      obtain rfl := Option.some.inj (ha.symm.trans hb)
      have hmem := List.mem_of_getElem? ha
      refine .table (fun key => Iff.rfl) ?_
      intro key v w hv hw
      obtain rfl := Option.some.inj (hv.symm.trans hw)
      have hentry := Table.mem_of_get?_eq_some hv
      exact Same.refl v
  | .table origin entries => by
      refine .table (fun key => Iff.rfl) ?_
      intro key v w hv hw
      obtain rfl := Option.some.inj (hv.symm.trans hw)
      have hentry := Table.mem_of_get?_eq_some hv
      exact Same.refl v
termination_by value => sizeOf value
decreasing_by
  · have := List.sizeOf_lt_of_mem hmem
    simp only [Value.array.sizeOf_spec]
    omega
  · have := List.sizeOf_lt_of_mem hmem
    have := List.sizeOf_lt_of_mem hentry
    simp only [Value.tables.sizeOf_spec, Prod.mk.sizeOf_spec] at *
    omega
  · have := List.sizeOf_lt_of_mem hentry
    simp only [Value.table.sizeOf_spec, Prod.mk.sizeOf_spec] at *
    omega

end Value.Same

namespace Table

variable {table : Table} {key : String}

lemma get?_add (hnew : table.get? key = none) (value : Value) (other : String) :
    (table.add key value).get? other = if other = key then some value else table.get? other := by
  rw [add, get?, List.lookup_append]
  split_ifs with hother
  · subst hother
    rw [show List.lookup other table = none from hnew]
    simp
  · have hlast : List.lookup other [(key, value)] = none := by simpa using hother
    rw [hlast, Option.or_none, get?]

end Table

namespace Table.Same

variable {table table' : Table}

lemma symm (h : table.Same table') : table'.Same table :=
  ⟨fun key => (h.keys key).symm, fun key a b ha hb => (h.values key b a hb ha).symm⟩

protected lemma refl (table : Table) : table.Same table :=
  Value.Same.table_iff.mp (Value.Same.refl (.table .defined table))

lemma trans {table'' : Table} (h : table.Same table') (h' : table'.Same table'') :
    table.Same table'' := by
  have hfirst : Value.Same (.table .defined table) (.table .defined table') :=
    Value.Same.table_iff.mpr h
  have hsecond : Value.Same (.table .defined table') (.table .defined table'') :=
    Value.Same.table_iff.mpr h'
  exact Value.Same.table_iff.mp (hfirst.trans hsecond)

lemma mem_keys_iff (h : table.Same table') (key : String) :
    key ∈ table.map Prod.fst ↔ key ∈ table'.map Prod.fst := by
  rw [← not_iff_not, ← get?_eq_none_iff, ← get?_eq_none_iff, h.keys]

/-- **The order of entries** is no data. -/
lemma of_perm (hnodup : (table.map Prod.fst).Nodup) (h : table.Perm table') :
    table.Same table' := by
  have hnodup' := (h.map Prod.fst).nodup_iff.mp hnodup
  constructor
  · intro key
    rw [get?_eq_none_iff, get?_eq_none_iff, (h.map Prod.fst).mem_iff]
  · intro key a b ha hb
    have ha' := get?_of_mem hnodup' (h.subset (mem_of_get?_eq_some ha))
    obtain rfl := Option.some.inj (ha'.symm.trans hb)
    exact Value.Same.refl a

/-- An entry in front may be replaced by one with the same data. -/
lemma cons {key : String} {a b : Value} (h : a.Same b) (htable : table.Same table') :
    Table.Same ((key, a) :: table) ((key, b) :: table') := by
  have hget : ∀ (value : Value) (table : Table) (other : String),
      Table.get? ((key, value) :: table) other
        = if other = key then some value else table.get? other := by
    intro value table other
    rw [get?, List.lookup_cons]
    split_ifs with hother
    · rw [beq_iff_eq.mpr hother]
    · rw [beq_eq_false_iff_ne.mpr hother, get?]
  constructor
  · intro other
    rw [hget, hget]
    split_ifs
    · simp
    · exact htable.keys other
  · intro other v w hv hw
    rw [hget] at hv hw
    split_ifs at hv hw
    · obtain rfl := Option.some.inj hv
      obtain rfl := Option.some.inj hw
      exact h
    · exact htable.values other v w hv hw

end Table.Same

end CommentSeparator.Toml
