import CommentSeparator.Proofs.Toml.WellFormed
import CommentSeparator.Style.Schema

/-!
# What fields make of a table

`Field.readTable` goes through the entries of a table one by one and changes a target as it goes.
Where no key occurs twice, the order in which it goes is of no consequence, and this file says so
without an order:

* `exists_readTable`, `keys_of_readTable` — the table is read if each entry has a field that reads
  it, and only if each entry has a field.
* `given_of_readTable` — what a field shows of the result is given by the value under its key, or
  is what it showed before if there is no such value.
* `readItems_eq_readTable` — an array read by position is the table of its positions.

`Given` is the common form of the second statement: a value that is given says what it says, and one
that is not given leaves the built-in one.
-/

namespace CommentSeparator

open Toml (Value Table)

/-- What a value that may be given makes of a built-in one. -/
def Given {α : Type} (writes : Value → α → Prop) (builtin : α) : Option Value → α → Prop
  | some value, result => writes value result
  | none, result => result = builtin

namespace Given

variable {α : Type} {writes writes' : Value → α → Prop} {builtin : α} {given : Option Value}

/-- A value is made of what is given iff whatever is given says something. -/
lemma exists_iff :
    (∃ a, Given writes builtin given a) ↔ ∀ value, given = some value → ∃ a, writes value a := by
  cases given with
  | none => simp [Given]
  | some value => simp [Given]

/-- Nothing else is made of it, if a value says one thing only. -/
lemma unique {a b : α} (ha : Given writes builtin given a) (hb : Given writes builtin given b)
    (hwrites : ∀ value, given = some value → writes value a → writes value b → a = b) : a = b := by
  cases given with
  | none => exact ha.trans hb.symm
  | some value => exact hwrites value rfl ha hb

lemma congr (h : ∀ value, given = some value → ∀ a, writes value a ↔ writes' value a) (a : α) :
    Given writes builtin given a ↔ Given writes' builtin given a := by
  cases given with
  | none => exact Iff.rfl
  | some value => exact h value rfl a

/-- A value that is given says what is made of it. -/
lemma of_eq_some {value : Value} {a : α} (hgiven : given = some value)
    (h : Given writes builtin given a) : writes value a := by
  subst hgiven
  exact h

end Given

lemma Except.bind_eq_ok {ε α β : Type} {first : Except ε α} {next : α → Except ε β} {b : β} :
    (first >>= next) = .ok b ↔ ∃ a, first = .ok a ∧ next a = .ok b := by
  cases first with
  | error e => simp [bind, Except.bind]
  | ok a => simp [bind, Except.bind]

lemma Except.mapError_eq_ok {ε ε' α : Type} {result : Except ε α} {f : ε → ε'} {a : α} :
    result.mapError f = .ok a ↔ result = .ok a := by
  cases result <;> simp [Except.mapError]

lemma Except.mapError_eq_error {ε ε' α : Type} {result : Except ε α} {f : ε → ε'} {e' : ε'} :
    result.mapError f = .error e' ↔ ∃ e, result = .error e ∧ f e = e' := by
  cases result <;> simp [Except.mapError]

namespace Field

variable {σ α : Type} {fields : List (Field σ)}

/-- A value under the key of a field that the field can read, whatever it changes. -/
def Reads (field : Field σ) (value : Value) : Prop :=
  ∀ target, ∃ result, field.set value target = .ok result

lemma set_holding_eq_ok {key : String} {read : Value → Except SchemaError α} {put : α → σ → σ}
    {value : Value} {target result : σ} :
    (holding key read put).set value target = .ok result
      ↔ ∃ a, read value = .ok a ∧ put a target = result := by
  simp only [holding, Except.bind_eq_ok]
  constructor
  · rintro ⟨a, hread, hput⟩
    exact ⟨a, hread, Except.ok.inj hput⟩
  · rintro ⟨a, hread, rfl⟩
    exact ⟨a, hread, rfl⟩

/-- A field that holds a value reads what its reader reads. -/
lemma reads_holding {key : String} {read : Value → Except SchemaError α} {put : α → σ → σ}
    {value : Value} {a : α} (hread : read value = .ok a) : (holding key read put).Reads value :=
  fun target => ⟨put a target, set_holding_eq_ok.mpr ⟨a, hread, rfl⟩⟩

/-- The entry of a key that no field has is refused; any other is read by the field of its key. -/
lemma readEntry_eq_ok {target result : σ} {entry : String × Value} :
    readEntry fields target entry = .ok result
      ↔ ∃ field, fields.find? (fun field => field.key = entry.1) = some field
          ∧ field.set entry.2 target = .ok result := by
  unfold readEntry
  cases fields.find? (fun field => field.key = entry.1) with
  | none => simp
  | some field => simp

lemma readTable_cons_eq_ok {target result : σ} {entry : String × Value} {entries : Table} :
    readTable fields target (entry :: entries) = .ok result
      ↔ ∃ next, readEntry fields target entry = .ok next
          ∧ readTable fields next entries = .ok result := by
  rw [readTable, List.foldlM_cons, Except.bind_eq_ok]
  rfl

/-- **Which tables are read**: those whose entries each have a field that reads the value. -/
lemma exists_readTable {entries : Table}
    (hentries : ∀ entry ∈ entries, ∃ field, fields.find? (fun field => field.key = entry.1)
      = some field ∧ field.Reads entry.2) :
    ∀ target, ∃ result, readTable fields target entries = .ok result := by
  induction entries with
  | nil => exact fun target => ⟨target, rfl⟩
  | cons entry entries ih =>
      intro target
      obtain ⟨⟨field, hfind, hreads⟩, hentries⟩ := List.forall_mem_cons.mp hentries
      obtain ⟨next, hset⟩ := hreads target
      obtain ⟨result, hresult⟩ := ih hentries next
      exact ⟨result, readTable_cons_eq_ok.mpr
        ⟨next, readEntry_eq_ok.mpr ⟨field, hfind, hset⟩, hresult⟩⟩

/-- A table that is read has no keys but those of the fields. -/
lemma keys_of_readTable {entries : Table} {target result : σ}
    (h : readTable fields target entries = .ok result) :
    ∀ key ∈ entries.map Prod.fst, key ∈ fields.map Field.key := by
  induction entries generalizing target with
  | nil => simp
  | cons entry entries ih =>
      obtain ⟨next, hentry, hrest⟩ := readTable_cons_eq_ok.mp h
      obtain ⟨field, hfind, -⟩ := readEntry_eq_ok.mp hentry
      have hfield : field.key = entry.1 := by simpa using List.find?_some hfind
      rw [List.map_cons, List.forall_mem_cons]
      exact ⟨hfield ▸ List.mem_map_of_mem (List.mem_of_find?_eq_some hfind), ih hrest⟩

/-- **A table is read as what it describes**, where a description holds of whatever is read, holds
of one result only, and has each entry read by the field of its key. -/
lemma readTable_eq_ok_iff {entries : Table} {target : σ} {describes : σ → Prop}
    (hread : ∀ result, readTable fields target entries = .ok result → describes result)
    (hunique : ∀ a b, describes a → describes b → a = b)
    (hentries : ∀ result, describes result → ∀ entry ∈ entries, ∃ field,
      fields.find? (fun field => field.key = entry.1) = some field ∧ field.Reads entry.2)
    {result : σ} : readTable fields target entries = .ok result ↔ describes result := by
  constructor
  · exact hread result
  · intro h
    obtain ⟨found, hfound⟩ := exists_readTable (hentries result h) target
    rw [hunique result found h (hread found hfound)]
    exact hfound

/-- `get` is what the field of a key shows: it shows what the value says that was read last, and no
other field changes it. -/
structure Shows (fields : List (Field σ)) (key : String) (writes : Value → α → Prop)
    (get : σ → α) : Prop where
  self : ∀ field ∈ fields, field.key = key → ∀ {value : Value} {target result : σ},
    field.set value target = .ok result → writes value (get result)
  other : ∀ field ∈ fields, field.key ≠ key → ∀ {value : Value} {target result : σ},
    field.set value target = .ok result → get result = get target

/-- Entries under other keys do not change what a field shows. -/
lemma get_eq_of_readTable {key : String} {writes : Value → α → Prop} {get : σ → α}
    (hshows : Shows fields key writes get) {entries : Table} (hkey : entries.get? key = none)
    {target result : σ} (h : readTable fields target entries = .ok result) :
    get result = get target := by
  induction entries generalizing target with
  | nil =>
      obtain rfl := Except.ok.inj h
      rfl
  | cons entry entries ih =>
      rw [Toml.Table.get?_eq_none_iff, List.map_cons, List.mem_cons, not_or] at hkey
      obtain ⟨next, hentry, hrest⟩ := readTable_cons_eq_ok.mp h
      obtain ⟨field, hfind, hset⟩ := readEntry_eq_ok.mp hentry
      have hfield : field.key = entry.1 := by simpa using List.find?_some hfind
      have hne : field.key ≠ key := fun heq => hkey.1 (heq ▸ hfield)
      rw [ih (Toml.Table.get?_eq_none_iff.mpr hkey.2) hrest,
        hshows.other field (List.mem_of_find?_eq_some hfind) hne hset]

/-- **What a field shows of a table that was read**: what the value under its key says, or what it
showed before. -/
lemma given_of_readTable {key : String} {writes : Value → α → Prop} {get : σ → α}
    (hshows : Shows fields key writes get) {entries : Table}
    (hnodup : (entries.map Prod.fst).Nodup) {target result : σ}
    (h : readTable fields target entries = .ok result) :
    Given writes (get target) (entries.get? key) (get result) := by
  induction entries generalizing target with
  | nil =>
      obtain rfl := Except.ok.inj h
      rfl
  | cons entry entries ih =>
      rw [List.map_cons, List.nodup_cons] at hnodup
      obtain ⟨next, hentry, hrest⟩ := readTable_cons_eq_ok.mp h
      obtain ⟨field, hfind, hset⟩ := readEntry_eq_ok.mp hentry
      have hmem := List.mem_of_find?_eq_some hfind
      have hfield : field.key = entry.1 := by simpa using List.find?_some hfind
      by_cases hkey : key = entry.1
      · -- no later entry has this key, so what it shows now stays
        have habsent : Toml.Table.get? entries key = none :=
          Toml.Table.get?_eq_none_iff.mpr (hkey ▸ hnodup.1)
        have hget : Toml.Table.get? (entry :: entries) key = some entry.2 := by
          rw [Toml.Table.get?, List.lookup_cons, hkey, beq_self_eq_true]
        rw [hget]
        show writes entry.2 (get result)
        rw [get_eq_of_readTable hshows habsent hrest]
        exact hshows.self field hmem (hfield.trans hkey.symm) hset
      · have hget : Toml.Table.get? (entry :: entries) key = Toml.Table.get? entries key := by
          rw [Toml.Table.get?, List.lookup_cons, beq_false_of_ne hkey]
          rfl
        have hstays := hshows.other field hmem (fun heq => hkey (heq.symm.trans hfield)) hset
        rw [hget, ← hstays]
        exact ih hnodup.2 hrest

/-- **An array is the table of its positions**: the first item stands under the first key, and so
on; what is left over on either side does not count. -/
lemma readItems_eq_readTable (hdistinct : (fields.map Field.key).Nodup) (target : σ)
    (items : List Value) :
    readItems fields target items
      = readTable fields target ((fields.map Field.key).zip items) := by
  -- the fields that are searched stay the same while the positions are gone through
  have hgeneral : ∀ (part : List (Field σ)), part <:+ fields → ∀ items target,
      (part.zip items).foldlM (fun target pair => pair.1.set pair.2 target) target
        = readTable fields target ((part.map Field.key).zip items) := by
    intro part
    induction part with
    | nil => intros; rfl
    | cons field part ih =>
        intro hpart items target
        cases items with
        | nil => rfl
        | cons item items =>
            have hfind : fields.find? (fun other => other.key = field.key) = some field := by
              obtain ⟨before, rfl⟩ := hpart
              rw [List.map_append, List.map_cons, List.nodup_append] at hdistinct
              have hbefore : before.find? (fun other => other.key = field.key) = none := by
                rw [List.find?_eq_none]
                intro other hother
                have hne := hdistinct.2.2 other.key (List.mem_map_of_mem hother) field.key
                  List.mem_cons_self
                simpa using hne
              rw [List.find?_append, hbefore]
              simp
            have hentry : ∀ target, readEntry fields target (field.key, item)
                = field.set item target := by
              intro target
              simp [readEntry, hfind]
            have hih := ih ((List.suffix_cons field part).trans hpart) items
            simp only [List.zip_cons_cons, List.foldlM_cons, List.map_cons, readTable] at hih ⊢
            rw [hentry]
            exact bind_congr hih
  exact hgeneral fields (List.suffix_refl fields) items target

end Field

end CommentSeparator
