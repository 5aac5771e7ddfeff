import CommentSeparator.Proofs.Style.Chosen
import CommentSeparator.Proofs.Toml.KeyOrder

/-!
# The first misfit

A document is looked at in the order in which its entries stand, and the parts `header` and `region`
are looked at in the order of theirs.  The first entry that does not fit ends it, so an error is
about one entry, and nothing that stands elsewhere has a say in it.

* `Entry` — an entry with the place where it stands, the only data that an error depends on.
* `Cut` — a document that is cut at an entry: what it is up to there, and what it is with the entry.
* `FirstMisfit` — the cut at which a document stops being accepted.

**Errors ignore what has been read.**  The target of a field has no part in its errors
(`Field.IgnoresTarget`), so an entry that stands behind accepted ones is refused as it would be on
its own (`Cut.ofTable_upTo_iff`), and nothing behind it masks the error (`Cut.ofTable_document`).
Both hold of a list of fields already, so a part and the whole document are one argument.

**Cuts are in order** (`Cut.eq_or`).  Hence there is exactly one first misfit.

**`first_misfit_reported`** says this of texts.  Their entries stand in the order of mention, with
the exception that a late header makes (`first_misfit_hidden_by_late_header`).
-/

namespace CommentSeparator

open Toml (Value Table)

namespace Field

variable {σ : Type} {fields : List (Field σ)} {target : σ} {entries : Table}

/-! ## Errors of a table -/

/-- A field whose errors do not depend on what it changes. -/
def IgnoresTarget (field : Field σ) : Prop :=
  ∀ (value : Value) (target target' : σ) (error : SchemaError),
    field.set value target = .error error → field.set value target' = .error error

lemma set_holding_eq_error {α : Type} {key : String} {read : Value → Except SchemaError α}
    {put : α → σ → σ} {value : Value} {error : SchemaError} :
    (holding key read put).set value target = .error error ↔ read value = .error error := by
  cases hread : read value <;> simp [holding, hread, bind, Except.bind, pure, Except.pure]

lemma ignoresTarget_holding {α : Type} (key : String) (read : Value → Except SchemaError α)
    (put : α → σ → σ) : (holding key read put).IgnoresTarget := by
  intro value target target' error h
  exact set_holding_eq_error.mpr (set_holding_eq_error.mp h)

lemma readEntry_eq_error (hfields : ∀ field ∈ fields, field.IgnoresTarget)
    {entry : String × Value} {error : SchemaError}
    (h : readEntry fields target entry = .error error) (target' : σ) :
    readEntry fields target' entry = .error error := by
  unfold readEntry at h ⊢
  cases hfind : fields.find? (fun field => field.key = entry.1) with
  | none => simpa [hfind] using h
  | some field =>
      rw [hfind] at h
      exact hfields field (List.mem_of_find?_eq_some hfind) _ _ _ _ h

lemma readTable_singleton (entry : String × Value) :
    readTable fields target [entry] = readEntry fields target entry := by
  rw [readTable, List.foldlM_cons]
  exact bind_pure _

lemma readTable_append (before after : Table) :
    readTable fields target (before ++ after)
      = readTable fields target before >>= fun next => readTable fields next after :=
  List.foldlM_append

/-- The errors of a table do not depend on what it changes. -/
lemma readTable_eq_error (hfields : ∀ field ∈ fields, field.IgnoresTarget) {error : SchemaError}
    (h : readTable fields target entries = .error error) (target' : σ) :
    readTable fields target' entries = .error error := by
  induction entries generalizing target target' with
  | nil => simp [readTable, pure, Except.pure] at h
  | cons entry entries ih =>
      rw [readTable, List.foldlM_cons] at h ⊢
      cases hentry : readEntry fields target entry with
      | error found =>
          rw [hentry] at h
          rw [readEntry_eq_error hfields hentry target']
          exact h
      | ok next =>
          rw [hentry] at h
          cases hentry' : readEntry fields target' entry with
          | error found =>
              simp [readEntry_eq_error hfields hentry' target] at hentry
          | ok next' => exact ih h next'

/-- What follows entries that are read is refused as it would be on its own. -/
lemma readTable_append_eq_error_iff (hfields : ∀ field ∈ fields, field.IgnoresTarget)
    {before after : Table} (hbefore : ∃ result, readTable fields target before = .ok result)
    {error : SchemaError} :
    readTable fields target (before ++ after) = .error error
      ↔ readTable fields target after = .error error := by
  obtain ⟨next, hnext⟩ := hbefore
  rw [readTable_append, hnext]
  exact ⟨fun h => readTable_eq_error hfields h target, fun h => readTable_eq_error hfields h next⟩

/-- **Nothing masks an error.** -/
lemma readTable_append_of_error {before : Table} {error : SchemaError}
    (h : readTable fields target before = .error error) (after : Table) :
    readTable fields target (before ++ after) = .error error := by
  rw [readTable_append, h]
  rfl

/-- **An error is that of the first entry that has one.** -/
lemma exists_first_error (hfields : ∀ field ∈ fields, field.IgnoresTarget) {error : SchemaError}
    (h : readTable fields target entries = .error error) :
    ∃ before entry after, entries = before ++ entry :: after
      ∧ (∃ result, readTable fields target before = .ok result)
      ∧ readTable fields target [entry] = .error error := by
  induction entries generalizing target with
  | nil => simp [readTable, pure, Except.pure] at h
  | cons entry entries ih =>
      cases hentry : readTable fields target [entry] with
      | error found =>
          have hfound := readTable_append_of_error hentry entries
          obtain rfl := Except.error.inj (hfound.symm.trans h)
          exact ⟨[], entry, entries, rfl, ⟨target, rfl⟩, hentry⟩
      | ok next =>
          have hentries := (readTable_append_eq_error_iff hfields ⟨next, hentry⟩).mp h
          obtain ⟨before, first, after, rfl, hbefore, hfirst⟩ := ih hentries
          refine ⟨entry :: before, first, after, rfl, ?_, hfirst⟩
          cases hread : readTable fields target (entry :: before) with
          | ok result => exact ⟨result, rfl⟩
          | error found =>
              obtain ⟨result, hresult⟩ := hbefore
              have hfound := (readTable_append_eq_error_iff hfields ⟨next, hentry⟩).mp hread
              simp [hfound] at hresult

end Field

namespace Schema

/-! ## Entries and cuts -/

/-- An entry of a document with the place where it stands: in the document itself, under a key of a
part, or at a position of a part. -/
inductive Entry where
  | root (key : String) (value : Value)
  | keyed (part key : String) (value : Value)
  | item (part : String) (position : ℕ) (value : Value)

/-- The keys of a part, in the order of positions. -/
def partKeys : String → List String
  | "header" => headerKeys
  | "region" => regionKeys
  | _ => []

/-- An entry of a part with its key; an item has the key of its position, if there is one. -/
def Entry.keyed? : Entry → Option (String × Value)
  | root key value => some (key, value)
  | keyed _ key value => some (key, value)
  | item part position value => (partKeys part)[position]?.map fun key => (key, value)

/-- The document with an entry in it and nothing else. -/
def Entry.alone : Entry → Table
  | root key value => [(key, value)]
  | keyed part key value => [(part, .table .defined [(key, value)])]
  | item part position value =>
    [(part, .table .defined (item part position value).keyed?.toList)]

/-- Does a value have entries that are looked at one by one? -/
def HasEntries : Value → Prop
  | .table _ _ => True
  | .array _ => True
  | .tables _ => True
  | _ => False

/-- A part that is cut at one of its entries: what it is up to the entry, what it is with the entry,
and what it is as a whole. -/
inductive PartCut (part : String) : (before upTo whole : Value) → Entry → Prop
  | table (origin : Toml.Origin) (before : Table) (key : String) (value : Value) (after : Table) :
      PartCut part (.table origin before) (.table origin (before ++ [(key, value)]))
        (.table origin (before ++ (key, value) :: after)) (.keyed part key value)
  | array (before : List Value) (item : Value) (after : List Value) :
      PartCut part (.array before) (.array (before ++ [item])) (.array (before ++ item :: after))
        (.item part before.length item)
  | tables (before : List Table) (element : Table) (after : List Table) :
      PartCut part (.tables before) (.tables (before ++ [element]))
        (.tables (before ++ element :: after)) (.item part before.length (.table .defined element))

/-- An entry of the document that is cut at itself, or at an entry below it: what it is up to
there, what it is with the entry, and what it is as a whole.  A part that has entries is not cut at
itself. -/
inductive RootCut : (before upTo : Table) → (whole : String × Value) → Entry → Prop
  | itself {key : String} {value : Value} : (key ∈ documentKeys → ¬ HasEntries value) →
      RootCut [] [(key, value)] (key, value) (.root key value)
  | part {part : String} {before upTo whole : Value} {entry : Entry} : part ∈ documentKeys →
      PartCut part before upTo whole entry →
      RootCut [(part, before)] [(part, upTo)] (part, whole) entry

/-- **A document that is cut at an entry**: what it is up to the entry, what it is with the entry,
and what it is as a whole. -/
inductive Cut : (before upTo document : Table) → Entry → Prop
  | root (front : Table) {before upTo : Table} {whole : String × Value} {entry : Entry}
      (back : Table) : RootCut before upTo whole entry →
      Cut (front ++ before) (front ++ upTo) (front ++ whole :: back) entry

/-- The styles of a document can be read. -/
def Accepted (document : Table) : Prop :=
  ∃ styles, Styles.ofTable document = .ok styles

/-! ## The entries of a part -/

lemma exists_entriesOf_iff {keys : List String} {value : Value} :
    (∃ entries, entriesOf keys value = some entries) ↔ HasEntries value := by
  cases value <;> simp [entriesOf, HasEntries]

/-- A position between others. -/
lemma zip_append_cons (keys : List String) (before : List Value) (item : Value)
    (after : List Value) :
    keys.zip (before ++ item :: after)
      = keys.zip before ++ ((keys[before.length]?.map fun key => (key, item)).toList
        ++ (keys.drop (before.length + 1)).zip after) := by
  induction keys generalizing before with
  | nil => simp
  | cons key keys ih =>
      cases before with
      | nil => simp
      | cons first before => simpa using ih before

/-- **What a part holds** up to an entry, with it, and as a whole. -/
lemma PartCut.entriesOf {part : String} {before upTo whole : Value} {entry : Entry}
    (h : PartCut part before upTo whole entry) :
    ∃ entries rest, Schema.entriesOf (partKeys part) before = some entries
      ∧ Schema.entriesOf (partKeys part) upTo = some (entries ++ entry.keyed?.toList)
      ∧ Schema.entriesOf (partKeys part) whole
        = some (entries ++ (entry.keyed?.toList ++ rest)) := by
  cases h with
  | table origin before key value after => exact ⟨before, after, rfl, rfl, rfl⟩
  | array before item after =>
      refine ⟨(partKeys part).zip before, _, rfl, ?_,
        congrArg some (zip_append_cons (partKeys part) before item after)⟩
      simp [Schema.entriesOf, Entry.keyed?, zip_append_cons]
  | tables before element after =>
      refine ⟨(partKeys part).zip (before.map (.table .defined)),
        ((partKeys part).drop (before.length + 1)).zip (after.map (.table .defined)), rfl, ?_, ?_⟩
      · simp [Schema.entriesOf, Entry.keyed?, zip_append_cons]
      · simp [Schema.entriesOf, Entry.keyed?, zip_append_cons]

/-- An entry among the items of an array stands at a position. -/
lemma exists_item_of_zip {keys : List String} {items : List Value} {before after : Table}
    {found : String × Value} (h : keys.zip items = before ++ found :: after) :
    ∃ itemsBefore itemsAfter, items = itemsBefore ++ found.2 :: itemsAfter
      ∧ before = keys.zip itemsBefore ∧ keys[itemsBefore.length]? = some found.1 := by
  induction before generalizing keys items with
  | nil =>
      cases keys with
      | nil => simp at h
      | cons key keys =>
          cases items with
          | nil => simp at h
          | cons item items =>
              obtain ⟨rfl, -⟩ := List.cons.inj h
              exact ⟨[], items, rfl, rfl, rfl⟩
  | cons first before ih =>
      cases keys with
      | nil => simp at h
      | cons key keys =>
          cases items with
          | nil => simp at h
          | cons item items =>
              obtain ⟨rfl, hrest⟩ := List.cons.inj h
              obtain ⟨itemsBefore, itemsAfter, rfl, rfl, hkey⟩ := ih hrest
              exact ⟨item :: itemsBefore, itemsAfter, rfl, rfl, hkey⟩

/-- A part can be cut at each of the entries that it holds. -/
lemma exists_partCut {part : String} {whole : Value} {before after : Table}
    {found : String × Value}
    (h : entriesOf (partKeys part) whole = some (before ++ found :: after)) :
    ∃ partBefore partUpTo entry, PartCut part partBefore partUpTo whole entry
      ∧ entriesOf (partKeys part) partBefore = some before ∧ entry.keyed? = some found := by
  cases whole with
  | table origin entries =>
      obtain rfl := Option.some.inj h
      exact ⟨_, _, _, .table origin before found.1 found.2 after, rfl, rfl⟩
  | array items =>
      obtain ⟨itemsBefore, itemsAfter, rfl, rfl, hkey⟩ := exists_item_of_zip (Option.some.inj h)
      refine ⟨_, _, _, .array itemsBefore found.2 itemsAfter, rfl, ?_⟩
      rw [Entry.keyed?, hkey]
      rfl
  | tables elements =>
      obtain ⟨itemsBefore, itemsAfter, hitems, rfl, hkey⟩ :=
        exists_item_of_zip (Option.some.inj h)
      obtain ⟨elementsBefore, rest, rfl, rfl, hrest⟩ := List.map_eq_append_iff.mp hitems
      obtain ⟨element, elementsAfter, rfl, helement, rfl⟩ := List.map_eq_cons_iff.mp hrest
      refine ⟨_, _, _, .tables elementsBefore element elementsAfter, rfl, ?_⟩
      rw [List.length_map] at hkey
      rw [Entry.keyed?, hkey, helement]
      rfl
  | _ => simp [entriesOf] at h

/-! ## Errors of a document -/

lemma ignoresTarget_styles : ∀ field ∈ Styles.fields, field.IgnoresTarget := by
  simp [Styles.fields, Field.ignoresTarget_holding]

/-- A part with entries is read by its entries. -/
lemma readAll_of_entriesOf {σ : Type} {fields : List (Field σ)}
    (hkeys : (fields.map Field.key).Nodup) {expected : Expected} {target : σ} {value : Value}
    {entries : Table} (h : entriesOf (fields.map Field.key) value = some entries) :
    Field.readAll fields expected target value = Field.readTable fields target entries := by
  cases value with
  | table origin own => exact congrArg _ (Option.some.inj h)
  | array items =>
      rw [← Option.some.inj h]
      exact Field.readItems_eq_readTable hkeys target items
  | tables elements =>
      rw [← Option.some.inj h]
      exact Field.readItems_eq_readTable hkeys target _
  | _ => simp [entriesOf] at h

/-- A part that is read by fields has the errors of its entries. -/
lemma ofTable_part_eq_error_iff {σ : Type} {fields : List (Field σ)} {expected : Expected}
    {builtin : σ} {put : σ → Styles → Styles} {part : String} {value : Value} {entries : Table}
    {error : SchemaError} (hkeys : (fields.map Field.key).Nodup)
    (hfind : Styles.fields.find? (fun field => field.key = part)
      = some (.holding part (Field.readAll fields expected builtin) put))
    (hentries : entriesOf (fields.map Field.key) value = some entries) :
    Styles.ofTable [(part, value)] = .error error
      ↔ Field.readTable fields builtin entries = .error error := by
  rw [Styles.ofTable, Field.readTable_singleton, Field.readEntry, hfind,
    ← readAll_of_entriesOf hkeys hentries]
  exact Field.set_holding_eq_error

/-- **A part has the errors of its entries**, with the fields of the part. -/
lemma exists_partFields {part : String} (hpart : part ∈ documentKeys) :
    ∃ (σ : Type) (fields : List (Field σ)) (builtin : σ), (∀ field ∈ fields, field.IgnoresTarget)
      ∧ ∀ value entries, entriesOf (partKeys part) value = some entries → ∀ error,
        Styles.ofTable [(part, value)] = .error error
          ↔ Field.readTable fields builtin entries = .error error := by
  simp only [documentKeys, List.mem_cons, List.not_mem_nil, or_false] at hpart
  rcases hpart with rfl | rfl
  · refine ⟨HeaderStyle, HeaderStyle.fields, {}, ?_, fun value entries hentries error =>
      ofTable_part_eq_error_iff (by decide) rfl hentries⟩
    simp [HeaderStyle.fields, Field.ignoresTarget_holding]
  · refine ⟨RegionStyle, RegionStyle.fields, {}, ?_, fun value entries hentries error =>
      ofTable_part_eq_error_iff (by decide) rfl hentries⟩
    simp [RegionStyle.fields, Field.ignoresTarget_holding]

/-- What is not accepted has an error. -/
lemma not_accepted_iff {document : Table} :
    ¬ Accepted document ↔ ∃ error, Styles.ofTable document = .error error := by
  unfold Accepted
  cases Styles.ofTable document <;> simp

lemma Accepted.of_append {before after : Table} (h : Accepted (before ++ after)) :
    Accepted before := by
  by_contra hbefore
  obtain ⟨error, herror⟩ := not_accepted_iff.mp hbefore
  exact not_accepted_iff.mpr ⟨error, Field.readTable_append_of_error herror after⟩ h

/-- What follows accepted entries is refused as it would be on its own. -/
lemma ofTable_append_eq_error_iff {before after : Table} (hbefore : Accepted before)
    {error : SchemaError} :
    Styles.ofTable (before ++ after) = .error error ↔ Styles.ofTable after = .error error :=
  Field.readTable_append_eq_error_iff ignoresTarget_styles hbefore

lemma PartCut.alone_eq {part : String} {before upTo whole : Value} {entry : Entry}
    (h : PartCut part before upTo whole entry) :
    entry.alone = [(part, .table .defined entry.keyed?.toList)] := by
  cases h <;> rfl

/-- An entry of a part that stands behind accepted ones has the error that it has alone, and nothing
behind it masks the error. -/
lemma PartCut.ofTable_upTo {part : String} (hpart : part ∈ documentKeys)
    {before upTo whole : Value} {entry : Entry} (h : PartCut part before upTo whole entry)
    {error : SchemaError} :
    (Accepted [(part, before)] →
        (Styles.ofTable [(part, upTo)] = .error error ↔ Styles.ofTable entry.alone = .error error))
      ∧ (Styles.ofTable [(part, upTo)] = .error error →
        Styles.ofTable [(part, whole)] = .error error) := by
  obtain ⟨σ, fields, builtin, hfields, herror⟩ := exists_partFields hpart
  obtain ⟨entries, rest, hbefore, hupTo, hwhole⟩ := h.entriesOf
  rw [h.alone_eq, herror _ _ hupTo, herror _ _ hwhole, herror _ entry.keyed?.toList rfl]
  constructor
  · intro haccepted
    refine Field.readTable_append_eq_error_iff hfields ?_
    cases hread : Field.readTable fields builtin entries with
    | ok result => exact ⟨result, rfl⟩
    | error found =>
        exact absurd haccepted (not_accepted_iff.mpr ⟨found, (herror _ _ hbefore _).mpr hread⟩)
  · intro hrefused
    rw [← List.append_assoc]
    exact Field.readTable_append_of_error hrefused rest

/-- The same for all entries of the document. -/
lemma RootCut.ofTable_upTo {before upTo : Table} {whole : String × Value} {entry : Entry}
    (h : RootCut before upTo whole entry) {error : SchemaError} :
    (Accepted before →
        (Styles.ofTable upTo = .error error ↔ Styles.ofTable entry.alone = .error error))
      ∧ (Styles.ofTable upTo = .error error → Styles.ofTable [whole] = .error error) := by
  cases h with
  | itself hentries => exact ⟨fun _ => Iff.rfl, id⟩
  | part hpart hcut => exact hcut.ofTable_upTo hpart

/-- **An entry behind accepted ones has the error that it has alone.** -/
lemma Cut.ofTable_upTo_iff {before upTo document : Table} {entry : Entry}
    (h : Cut before upTo document entry) (hbefore : Accepted before) {error : SchemaError} :
    Styles.ofTable upTo = .error error ↔ Styles.ofTable entry.alone = .error error := by
  obtain @⟨front, before, upTo, whole, _, back, hcut⟩ := h
  have hfront : Accepted front := hbefore.of_append
  rw [ofTable_append_eq_error_iff hfront]
  refine hcut.ofTable_upTo.1 ?_
  by_contra hrefused
  obtain ⟨found, hfound⟩ := not_accepted_iff.mp hrefused
  exact not_accepted_iff.mpr ⟨found, (ofTable_append_eq_error_iff hfront).mpr hfound⟩ hbefore

/-- **Nothing behind an entry masks its error.** -/
lemma Cut.ofTable_document {before upTo document : Table} {entry : Entry}
    (h : Cut before upTo document entry) {error : SchemaError}
    (hupTo : Styles.ofTable upTo = .error error) : Styles.ofTable document = .error error := by
  obtain @⟨front, before, upTo, whole, _, back, hcut⟩ := h
  rw [List.append_cons]
  refine Field.readTable_append_of_error ?_ back
  by_cases hfront : Accepted front
  · have hrefused := (ofTable_append_eq_error_iff hfront).mp hupTo
    exact (ofTable_append_eq_error_iff hfront).mpr (hcut.ofTable_upTo.2 hrefused)
  · obtain ⟨found, hfound⟩ := not_accepted_iff.mp hfront
    have hfound' := Field.readTable_append_of_error hfound upTo
    obtain rfl := Except.error.inj (hfound'.symm.trans hupTo)
    exact Field.readTable_append_of_error hfound [whole]

/-- **A document that is refused can be cut at its first misfit.** -/
lemma exists_cut {document : Table} {error : SchemaError}
    (h : Styles.ofTable document = .error error) :
    ∃ before upTo entry, Cut before upTo document entry ∧ Accepted before
      ∧ Styles.ofTable entry.alone = .error error := by
  obtain ⟨front, ⟨key, value⟩, back, rfl, hfront, hfirst⟩ :=
    Field.exists_first_error ignoresTarget_styles h
  by_cases hentries : key ∈ documentKeys ∧ HasEntries value
  · obtain ⟨hpart, hvalue⟩ := hentries
    obtain ⟨σ, fields, builtin, hfields, herror⟩ := exists_partFields hpart
    obtain ⟨entries, hentries⟩ := exists_entriesOf_iff.mpr hvalue
    obtain ⟨partBefore, found, partAfter, rfl, ⟨result, hresult⟩, hfound⟩ :=
      Field.exists_first_error hfields ((herror _ _ hentries _).mp hfirst)
    obtain ⟨cutBefore, cutUpTo, entry, hcut, hcutBefore, hkeyed⟩ := exists_partCut hentries
    refine ⟨_, _, entry, .root front back (.part hpart hcut), ?_, ?_⟩
    · by_contra hrefused
      obtain ⟨other, hother⟩ := not_accepted_iff.mp hrefused
      rw [ofTable_append_eq_error_iff hfront, herror _ _ hcutBefore, hresult] at hother
      simp at hother
    · rw [hcut.alone_eq, herror _ entry.keyed?.toList rfl, hkeyed]
      exact hfound
  · refine ⟨_, _, _, .root front back (.itself fun hkey hvalue => hentries ⟨hkey, hvalue⟩), ?_,
      hfirst⟩
    rw [List.append_nil]
    exact hfront

/-! ## One first misfit -/

/-- Of two places in a list the one is the other, or one is in front. -/
lemma eq_or_of_append_cons_eq {α : Type} {xs ys xs' ys' : List α} {x x' : α}
    (h : xs ++ x :: ys = xs' ++ x' :: ys') :
    (xs = xs' ∧ x = x' ∧ ys = ys')
      ∨ (∃ between, xs' = xs ++ x :: between) ∨ ∃ between, xs = xs' ++ x' :: between := by
  rcases List.append_eq_append_iff.mp h with
    ⟨_ | ⟨first, more⟩, hxs, hys⟩ | ⟨_ | ⟨first, more⟩, hxs, hys⟩
  · obtain ⟨rfl, rfl⟩ := List.cons.inj hys
    exact .inl ⟨by simpa using hxs.symm, rfl, rfl⟩
  · obtain ⟨rfl, -⟩ := List.cons.inj hys
    exact .inr (.inl ⟨more, hxs⟩)
  · obtain ⟨rfl, rfl⟩ := List.cons.inj hys
    exact .inl ⟨by simpa using hxs, rfl, rfl⟩
  · obtain ⟨rfl, -⟩ := List.cons.inj hys
    exact .inr (.inr ⟨more, hxs⟩)

/-- Of two cuts of a part the one is the other, or what comes before one can be cut as the other. -/
lemma PartCut.eq_or {part : String} {before upTo before' upTo' whole : Value} {entry entry' : Entry}
    (h : PartCut part before upTo whole entry) (h' : PartCut part before' upTo' whole entry') :
    (before = before' ∧ upTo = upTo' ∧ entry = entry')
      ∨ PartCut part before upTo before' entry ∨ PartCut part before' upTo' before entry' := by
  generalize hwhole : whole = whole' at h'
  cases h with
  | table origin front key value back =>
      cases h' with
      | table origin' front' key' value' back' =>
          obtain ⟨rfl, hentries⟩ := Value.table.inj hwhole
          rcases eq_or_of_append_cons_eq hentries with
            ⟨rfl, ⟨⟩, -⟩ | ⟨between, rfl⟩ | ⟨between, rfl⟩
          · exact .inl ⟨rfl, rfl, rfl⟩
          · exact .inr (.inl (.table ..))
          · exact .inr (.inr (.table ..))
      | _ => simp at hwhole
  | array front item back =>
      cases h' with
      | array front' item' back' =>
          rcases eq_or_of_append_cons_eq (Value.array.inj hwhole) with
            ⟨rfl, rfl, -⟩ | ⟨between, rfl⟩ | ⟨between, rfl⟩
          · exact .inl ⟨rfl, rfl, rfl⟩
          · exact .inr (.inl (.array ..))
          · exact .inr (.inr (.array ..))
      | _ => simp at hwhole
  | tables front element back =>
      cases h' with
      | tables front' element' back' =>
          rcases eq_or_of_append_cons_eq (Value.tables.inj hwhole) with
            ⟨rfl, rfl, -⟩ | ⟨between, rfl⟩ | ⟨between, rfl⟩
          · exact .inl ⟨rfl, rfl, rfl⟩
          · exact .inr (.inl (.tables ..))
          · exact .inr (.inr (.tables ..))
      | _ => simp at hwhole

lemma PartCut.hasEntries {part : String} {before upTo whole : Value} {entry : Entry}
    (h : PartCut part before upTo whole entry) : HasEntries whole := by
  cases h <;> trivial

/-- The same for the cuts of an entry of the document. -/
lemma RootCut.eq_or {before upTo before' upTo' : Table} {whole : String × Value}
    {entry entry' : Entry} (h : RootCut before upTo whole entry)
    (h' : RootCut before' upTo' whole entry') :
    (before = before' ∧ upTo = upTo' ∧ entry = entry')
      ∨ (∃ other, before' = [other] ∧ RootCut before upTo other entry)
      ∨ ∃ other, before = [other] ∧ RootCut before' upTo' other entry' := by
  cases h with
  | itself hentries =>
      cases h' with
      | itself => exact .inl ⟨rfl, rfl, rfl⟩
      | part hpart hcut => exact absurd hcut.hasEntries (hentries hpart)
  | part hpart hcut =>
      cases h' with
      | itself hentries => exact absurd hcut.hasEntries (hentries hpart)
      | part hpart' hcut' =>
          rcases hcut.eq_or hcut' with ⟨rfl, rfl, rfl⟩ | hfirst | hsecond
          · exact .inl ⟨rfl, rfl, rfl⟩
          · exact .inr (.inl ⟨_, rfl, .part hpart hfirst⟩)
          · exact .inr (.inr ⟨_, rfl, .part hpart hsecond⟩)

/-- **Cuts are in order**: of two cuts of a document the one is the other, or what comes before one
can be cut as the other. -/
lemma Cut.eq_or {before upTo before' upTo' document : Table} {entry entry' : Entry}
    (h : Cut before upTo document entry) (h' : Cut before' upTo' document entry') :
    (before = before' ∧ upTo = upTo' ∧ entry = entry')
      ∨ Cut before upTo before' entry ∨ Cut before' upTo' before entry' := by
  generalize hdocument : document = document' at h'
  obtain @⟨front, before, upTo, whole, _, back, hcut⟩ := h
  obtain @⟨front', before', upTo', whole', _, back', hcut'⟩ := h'
  rcases eq_or_of_append_cons_eq hdocument with
    ⟨rfl, rfl, -⟩ | ⟨between, rfl⟩ | ⟨between, rfl⟩
  · rcases hcut.eq_or hcut' with ⟨rfl, rfl, rfl⟩ | ⟨other, rfl, hother⟩ | ⟨other, rfl, hother⟩
    · exact .inl ⟨rfl, rfl, rfl⟩
    · exact .inr (.inl (.root front [] hother))
    · exact .inr (.inr (.root front [] hother))
  · rw [List.append_assoc, List.cons_append]
    exact .inr (.inl (.root front _ hcut))
  · rw [List.append_assoc front', List.cons_append]
    exact .inr (.inr (.root front' _ hcut'))

/-- **The first misfit of a document**: up to this entry the document is accepted, and with it, it
is refused. -/
structure FirstMisfit (document before upTo : Table) (entry : Entry) : Prop where
  cut : Cut before upTo document entry
  accepted : Accepted before
  refused : ¬ Accepted upTo

namespace FirstMisfit

variable {document before upTo before' upTo' : Table} {entry entry' : Entry}

/-- A misfit is not followed by an accepted document. -/
lemma not_accepted (h : FirstMisfit document before upTo entry) : ¬ Accepted document := by
  obtain ⟨error, herror⟩ := not_accepted_iff.mp h.refused
  exact not_accepted_iff.mpr ⟨error, h.cut.ofTable_document herror⟩

/-- There is one first misfit. -/
lemma unique (h : FirstMisfit document before upTo entry)
    (h' : FirstMisfit document before' upTo' entry') :
    before = before' ∧ upTo = upTo' ∧ entry = entry' := by
  rcases h.cut.eq_or h'.cut with heq | hcut | hcut
  · exact heq
  · exact absurd h'.accepted (FirstMisfit.mk hcut h.accepted h.refused).not_accepted
  · exact absurd h.accepted (FirstMisfit.mk hcut h'.accepted h'.refused).not_accepted

end FirstMisfit

/-- **A document that is refused has a first misfit**, and the error is the one that the misfit has
alone. -/
lemma exists_firstMisfit {document : Table} {error : SchemaError}
    (h : Styles.ofTable document = .error error) :
    ∃ before upTo entry, FirstMisfit document before upTo entry
      ∧ Styles.ofTable entry.alone = .error error := by
  obtain ⟨before, upTo, entry, hcut, hbefore, halone⟩ := exists_cut h
  have hupTo := (hcut.ofTable_upTo_iff hbefore).mpr halone
  exact ⟨before, upTo, entry, ⟨hcut, hbefore, not_accepted_iff.mpr ⟨error, hupTo⟩⟩, halone⟩

/-! ## Errors of a text -/

lemma ofToml_eq_notToml_iff {text : String} :
    Styles.ofToml text = .error .notToml ↔ Table.ofText? text = none := by
  unfold Styles.ofToml
  cases Table.ofText? text with
  | none => simp
  | some document => cases hread : Styles.ofTable document <;> simp [hread, Except.mapError]

lemma ofToml_eq_schema_iff {text : String} {error : SchemaError} :
    Styles.ofToml text = .error (.schema error)
      ↔ ∃ document, Table.ofText? text = some document
        ∧ Styles.ofTable document = .error error := by
  unfold Styles.ofToml
  cases Table.ofText? text with
  | none => simp
  | some document => cases hread : Styles.ofTable document <;> simp [hread, Except.mapError]

/-- **A schema error is the error of the first misfit.**

A text that is no TOML is refused as such.  Otherwise it writes a document, with its keys in order.
This is the order of first mention, but the header of a table that has been mentioned before moves
it.  If the document does not describe styles, there is exactly one first misfit: up to this entry
the document is accepted, and with it, it is refused.  The error is the one that the entry has
alone, and it is the error of every document with this entry behind accepted ones, whatever these
are, and whatever follows.  A file with the text has the same error, and the same is said about it,
whatever the words of the TOML library are. -/
theorem first_misfit_reported (text : String) :
    (Table.ofText? text = none →
        Styles.ofToml text = .error .notToml
          ∧ StyleError.notToml.message = "failed to parse style TOML")
      ∧ (∀ error, Styles.ofToml text = .error (.schema error) →
          (StyleError.schema error).message = "failed to parse style TOML: " ++ error.message
          ∧ ∃ document before upTo entry,
            Table.ofText? text = some document
            ∧ Toml.InOrder text document
            ∧ FirstMisfit document before upTo entry
            ∧ (∀ before' upTo' entry', FirstMisfit document before' upTo' entry' →
              before = before' ∧ upTo = upTo' ∧ entry = entry')
            ∧ Styles.ofTable entry.alone = .error error
            ∧ ∀ before' upTo' document', Cut before' upTo' document' entry → Accepted before' →
              Styles.ofTable document' = .error error)
      ∧ ∀ files path error, files.read path = .ok (Text.encode text) →
          Styles.ofToml text = .error error →
          ∃ failure, StyleFile.load files path = .error failure
            ∧ ∀ words, failure.message words
              = "invalid style file: " ++ path.text ++ ": " ++ error.message (words path) := by
  refine ⟨fun hnone => ⟨ofToml_eq_notToml_iff.mpr hnone, rfl⟩, fun error herror => ⟨rfl, ?_⟩, ?_⟩
  · obtain ⟨document, hdocument, hrefused⟩ := ofToml_eq_schema_iff.mp herror
    obtain ⟨before, upTo, entry, hmisfit, halone⟩ := exists_firstMisfit hrefused
    refine ⟨document, before, upTo, entry, hdocument, Toml.inOrder_of_ofText? hdocument, hmisfit,
      fun _ _ _ hother => hmisfit.unique hother, halone, ?_⟩
    intro before' upTo' document' hcut hbefore
    exact hcut.ofTable_document ((hcut.ofTable_upTo_iff hbefore).mpr halone)
  · intro files path error hread herror
    exact ⟨.invalid path error, StyleFile.load_eq_error_iff.mpr (.invalid hread herror),
      fun words => LoadError.message_invalid words path error⟩

/-- The second item of an array is no text, and there are more misfits behind it.  Without its last
bracket the text is no TOML, and no misfit of it is reported. -/
theorem first_misfit_reported_of_array :
    let text := "header = ['/*', 1, -1]\nother = 0\n"
    let entry := Entry.item "header" 1 (.integer 1)
    let error := SchemaError.invalidType (.integer 1) .text
    let document : Table := [("header", .array [.string "/*", .integer 1, .integer (-1)]),
      ("other", .integer 0)]
    let path : Path := ⟨true, ["sepgen.toml"]⟩
    Table.ofText? text = some document
      ∧ Styles.ofToml text = .error (.schema error)
      ∧ Accepted [("header", .array [.string "/*"])]
      ∧ Styles.ofTable entry.alone = .error error
      ∧ Styles.ofTable [("region", .table .dotted []), ("header", .array [.string "", .integer 1])]
        = .error error
      ∧ Styles.ofToml "header = ['/*', 1, -1" = .error .notToml
      ∧ ∃ failure,
          StyleFile.load (.ofFiles [(path, Text.encode text)]) path = .error failure
          ∧ failure.message = "invalid style file: " ++ path.text
            ++ ": failed to parse style TOML: invalid type: integer `1`, expected a string" := by
  have hdocument : Table.ofText? "header = ['/*', 1, -1]\nother = 0\n"
      = some [("header", .array [.string "/*", .integer 1, .integer (-1)]),
        ("other", .integer 0)] := by
    with_unfolding_all rfl
  intro text entry error document path
  have herror : Styles.ofToml text = .error (.schema error) :=
    ofToml_eq_schema_iff.mpr ⟨document, hdocument, rfl⟩
  have hbefore : Accepted [("header", .array [.string "/*"])] := ⟨_, rfl⟩
  have hmisfit : FirstMisfit document [("header", .array [.string "/*"])]
      [("header", .array [.string "/*", .integer 1])] entry :=
    ⟨.root [] [("other", .integer 0)]
        (.part (by decide) (.array [.string "/*"] (.integer 1) [.integer (-1)])),
      hbefore, not_accepted_iff.mpr ⟨error, rfl⟩⟩
  have hopen : Table.ofText? "header = ['/*', 1, -1" = none := by with_unfolding_all rfl
  obtain ⟨hrefusedText, -⟩ := (first_misfit_reported "header = ['/*', 1, -1").1 hopen
  obtain ⟨-, hschema, hfile⟩ := first_misfit_reported text
  obtain ⟨-, found, before, upTo, first, hfound, -, -, hunique, halone, hothers⟩ :=
    hschema error herror
  obtain rfl := Option.some.inj (hdocument.symm.trans hfound)
  obtain ⟨-, -, rfl⟩ := hunique _ _ _ hmisfit
  have hother : Cut [("region", .table .dotted []), ("header", .array [.string ""])] _
      [("region", .table .dotted []), ("header", .array [.string "", .integer 1])] entry :=
    .root [("region", .table .dotted [])] []
      (.part (by decide) (.array [.string ""] (.integer 1) []))
  obtain ⟨failure, hload, hmessage⟩ :=
    hfile (.ofFiles [(path, Text.encode text)]) path _ rfl herror
  exact ⟨hdocument, herror, hbefore, halone, hothers _ _ _ hother ⟨_, rfl⟩, hrefusedText, failure,
    hload, hmessage .plain⟩

/-- Taken in the order of first mention, the first misfit of this document is `a`.  But `a` gets its
place by its own header, which is the last, so what is reported is the misfit below `header`. -/
theorem first_misfit_hidden_by_late_header :
    let text := "[a.b]\n[header]\nbegin=1\n[a]"
    let a : String × Value := ("a", .table .defined [("b", .table .defined [])])
    let header : String × Value := ("header", .table .defined [("begin", .integer 1)])
    (∃ mentions, Toml.mentionsIn? text = some mentions
        ∧ Toml.firstMentions mentions = ["a", "header"])
      ∧ Table.ofText? text = some [header, a]
      ∧ FirstMisfit [a, header] [] [a] (.root a.1 a.2)
      ∧ Styles.ofTable [a] = .error (.unknownField "a" documentKeys)
      ∧ Styles.ofTable [a, header] = .error (.unknownField "a" documentKeys)
      ∧ Styles.ofToml text = .error (.schema (.invalidType (.integer 1) .text)) := by
  have hmentions : ∃ mentions, Toml.mentionsIn? "[a.b]\n[header]\nbegin=1\n[a]" = some mentions
      ∧ Toml.firstMentions mentions = ["a", "header"] := by
    refine ⟨[⟨["a", "b"], .table⟩, ⟨["header"], .table⟩,
      ⟨["header", "begin"], .assign (.integer 1)⟩, ⟨["a"], .table⟩], ?_, ?_⟩
    · with_unfolding_all rfl
    · decide
  have hdocument : Table.ofText? "[a.b]\n[header]\nbegin=1\n[a]"
      = some [("header", .table .defined [("begin", .integer 1)]),
        ("a", .table .defined [("b", .table .defined [])])] := by
    with_unfolding_all rfl
  intro text a header
  have hrefused : Styles.ofTable [a] = .error (.unknownField "a" documentKeys) := rfl
  have hmisfit : FirstMisfit [a, header] [] [a] (.root a.1 a.2) :=
    ⟨.root [] [header] (.itself fun hkey => absurd hkey (by decide)), ⟨{}, rfl⟩,
      not_accepted_iff.mpr ⟨_, hrefused⟩⟩
  exact ⟨hmentions, hdocument, hmisfit, hrefused, hmisfit.cut.ofTable_document hrefused,
    ofToml_eq_schema_iff.mpr ⟨_, hdocument, rfl⟩⟩

end Schema

end CommentSeparator
