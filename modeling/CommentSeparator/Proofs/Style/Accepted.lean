import CommentSeparator.Proofs.Style.Described
import CommentSeparator.Proofs.Toml.SameData

/-!
# Which documents describe styles

`Proofs.Style.Described` says which styles a document describes.  Here is said for which documents
there are any, and on how little of a document they depend.

**What fits.**  `FitsTable` goes by keys and `FitsItems` by position; both take the kinds of values
from a list like `headerKinds`.  That everything fits is all that is needed, and no two entries have
to agree (`exists_describesStyles_iff`).

**What counts.**  `fieldValue` is the value that a document gives to a field, if any.  A field is
made of it and of nothing else (`DescribesStyles.merges`), and the styles are the same for all
documents with the same data (`DescribesStyles.of_same`).
-/

namespace CommentSeparator

open Toml (Value Table)

namespace Schema

/-! ## Kinds of values -/

/-- A text. -/
def IsText (value : Value) : Prop :=
  ∃ text, value = .string text

/-- An integer from zero up to the greatest one of a document. -/
def IsWidth (value : Value) : Prop :=
  ∃ n : Int64, value = .integer n ∧ 0 ≤ n.toInt ∧ n.toInt ≤ 0x7FFFFFFFFFFFFFFF

/-- The name of a branch policy, or a table with that name as its only key and nothing in it. -/
def IsBranch (value : Value) : Prop :=
  (value = .string "dash-count" ∨ value = .string "label")
    ∨ ∃ origin name content, value = .table origin [(name, content)]
        ∧ (name = "dash-count" ∨ name = "label")
        ∧ (content = .array [] ∨ ∃ inner, content = .table inner [])

lemma isText_iff {value : Value} : IsText value ↔ ∃ text, WritesText value text := by
  constructor
  · rintro ⟨text, rfl⟩
    exact ⟨text, .string text⟩
  · rintro ⟨text, ⟨⟩⟩
    exact ⟨text, rfl⟩

lemma isWidth_iff {value : Value} : IsWidth value ↔ ∃ width, WritesWidth value width := by
  constructor
  · rintro ⟨n, rfl, hn, -⟩
    exact ⟨n.toUInt64, .integer (toNat_toUInt64 hn).symm⟩
  · rintro ⟨width, @⟨n, _, hn⟩⟩
    have hle := Int64.toInt_le n
    rw [Int64.toInt_maxValue] at hle
    exact ⟨n, rfl, by omega, hle⟩

lemma isBranch_iff {value : Value} : IsBranch value ↔ ∃ branch, WritesBranch value branch := by
  have hnames : ∀ name : String,
      name = "dash-count" ∨ name = "label" ↔ ∃ branch : BranchPolicy, name = branch.name := by
    intro name
    constructor
    · rintro (rfl | rfl)
      · exact ⟨.dashCount, rfl⟩
      · exact ⟨.label, rfl⟩
    · rintro ⟨_ | _, rfl⟩
      · exact Or.inl rfl
      · exact Or.inr rfl
  constructor
  · rintro ((rfl | rfl) | ⟨origin, name, content, rfl, hname, hcontent⟩)
    · exact ⟨.dashCount, .name .dashCount⟩
    · exact ⟨.label, .name .label⟩
    · obtain ⟨branch, rfl⟩ := (hnames name).mp hname
      refine ⟨branch, .entry origin branch ?_⟩
      rcases hcontent with rfl | ⟨inner, rfl⟩
      · exact .array
      · exact .table inner
  · rintro ⟨branch, _ | ⟨origin, _, hcontent⟩⟩
    · rcases (hnames _).mpr ⟨branch, rfl⟩ with h | h
      · exact Or.inl (Or.inl (congrArg Value.string h))
      · exact Or.inl (Or.inr (congrArg Value.string h))
    · refine Or.inr ⟨origin, branch.name, _, rfl, (hnames _).mpr ⟨branch, rfl⟩, ?_⟩
      cases hcontent with
      | table inner => exact Or.inr ⟨inner, rfl⟩
      | array => exact Or.inl rfl

/-! ## What fits -/

/-- The kinds of values in the style of headers, with their keys, in the order of positions. -/
def headerKinds : List (String × (Value → Prop)) :=
  [("begin", IsText), ("end", IsText), ("width", IsWidth)]

/-- The kinds of values in the style of regions. -/
def regionKinds : List (String × (Value → Prop)) :=
  [("begin", IsText), ("end", IsText), ("width", IsWidth), ("branch", IsBranch)]

/-- Every entry has a known key and a value of the kind of that key. -/
def FitsTable (kinds : List (String × (Value → Prop))) (entries : Table) : Prop :=
  ∀ entry ∈ entries, ∃ kind ∈ kinds, kind.1 = entry.1 ∧ kind.2 entry.2

/-- Every item that has a position is of the kind of that position. -/
def FitsItems (kinds : List (String × (Value → Prop))) (items : List Value) : Prop :=
  ∀ pair ∈ kinds.zip items, pair.1.2 pair.2

/-- A part of a document that fits: a table by its keys, an array by its positions. -/
inductive FitsPart (kinds : List (String × (Value → Prop))) : Value → Prop
  | table (origin : Toml.Origin) {entries : Table} : FitsTable kinds entries →
      FitsPart kinds (.table origin entries)
  | array {items : List Value} : FitsItems kinds items → FitsPart kinds (.array items)

/-- The parts of a document. -/
def documentKinds : List (String × (Value → Prop)) :=
  [("header", FitsPart headerKinds), ("region", FitsPart regionKinds)]

/-- A table fits iff its keys are known, and whatever they lead to is of their kind. -/
lemma fitsTable_iff {kinds : List (String × (Value → Prop))} (hkinds : (kinds.map Prod.fst).Nodup)
    {entries : Table} (hentries : (entries.map Prod.fst).Nodup) :
    FitsTable kinds entries
      ↔ (∀ key ∈ entries.map Prod.fst, key ∈ kinds.map Prod.fst)
        ∧ ∀ kind ∈ kinds, ∀ value, entries.get? kind.1 = some value → kind.2 value := by
  constructor
  · intro h
    constructor
    · intro key hkey
      obtain ⟨entry, hentry, rfl⟩ := List.mem_map.mp hkey
      obtain ⟨kind, hkind, heq, -⟩ := h entry hentry
      exact List.mem_map.mpr ⟨kind, hkind, heq⟩
    · intro kind hkind value hget
      obtain ⟨kind', hkind', heq, hvalue⟩ := h _ (Toml.Table.mem_of_get?_eq_some hget)
      rwa [List.inj_on_of_nodup_map hkinds hkind' hkind heq] at hvalue
  · rintro ⟨hkeys, hvalues⟩ entry hentry
    obtain ⟨kind, hkind, heq⟩ := List.mem_map.mp (hkeys _ (List.mem_map_of_mem hentry))
    refine ⟨kind, hkind, heq, hvalues kind hkind entry.2 ?_⟩
    rw [heq]
    exact Toml.Table.get?_of_mem hentries hentry

/-- Items fit iff they fit under the keys of their positions. -/
lemma fitsItems_iff {kinds : List (String × (Value → Prop))} (hkinds : (kinds.map Prod.fst).Nodup)
    (items : List Value) :
    FitsItems kinds items ↔ FitsTable kinds ((kinds.map Prod.fst).zip items) := by
  have hzip : (kinds.map Prod.fst).zip items
      = (kinds.zip items).map fun pair => (pair.1.1, pair.2) := by
    rw [List.zip_map_left]
    rfl
  constructor
  · intro h entry hentry
    rw [hzip] at hentry
    obtain ⟨pair, hpair, rfl⟩ := List.mem_map.mp hentry
    exact ⟨pair.1, (List.of_mem_zip hpair).1, rfl, h pair hpair⟩
  · intro h pair hpair
    have hentry : (pair.1.1, pair.2) ∈ (kinds.map Prod.fst).zip items := by
      rw [hzip]
      exact List.mem_map_of_mem hpair
    obtain ⟨kind, hkind, heq, hvalue⟩ := h _ hentry
    rwa [List.inj_on_of_nodup_map hkinds hkind (List.of_mem_zip hpair).1 heq] at hvalue

/-- A part fits iff it has entries that fit.  An array of tables has a table where a text is
expected. -/
lemma fitsPart_iff {kinds : List (String × (Value → Prop))} {key : String}
    (hkinds : (((key, IsText) :: kinds).map Prod.fst).Nodup) {value : Value}
    (hwf : value.WellFormed) :
    FitsPart ((key, IsText) :: kinds) value
      ↔ ∃ entries, entriesOf (((key, IsText) :: kinds).map Prod.fst) value = some entries
          ∧ FitsTable ((key, IsText) :: kinds) entries := by
  constructor
  · rintro (⟨origin, h⟩ | h)
    · exact ⟨_, rfl, h⟩
    · exact ⟨_, rfl, (fitsItems_iff hkinds _).mp h⟩
  · rintro ⟨entries, hentries, h⟩
    cases value with
    | table origin own =>
        obtain rfl := Option.some.inj hentries
        exact .table origin h
    | array items =>
        obtain rfl := Option.some.inj hentries
        exact .array ((fitsItems_iff hkinds _).mpr h)
    | tables elements =>
        obtain rfl := Option.some.inj hentries
        cases elements with
        | nil => exact absurd rfl (Toml.Value.WellFormed.tables_iff.mp hwf).1
        | cons element elements =>
            have hitems := (fitsItems_iff hkinds _).mpr h
            obtain ⟨text, htext⟩ := hitems ((key, IsText), .table .defined element)
              (by simp only [List.map_cons, List.zip_cons_cons, List.mem_cons, true_or])
            exact Value.noConfusion htext
    | _ => simp [entriesOf] at hentries

lemma exists_describesHeader_iff {entries : Table} (hwf : entries.WellFormed) :
    (∃ style, DescribesHeader entries style) ↔ FitsTable headerKinds entries := by
  rw [fitsTable_iff (by decide) hwf.nodup]
  constructor
  · rintro ⟨style, h⟩
    refine ⟨h.keys, ?_⟩
    simp only [headerKinds, List.forall_mem_cons, isText_iff, isWidth_iff]
    exact ⟨Given.exists_iff.mp ⟨_, h.opening⟩, Given.exists_iff.mp ⟨_, h.closing⟩,
      Given.exists_iff.mp ⟨_, h.width⟩, by simp⟩
  · rintro ⟨hkeys, hvalues⟩
    simp only [headerKinds, List.forall_mem_cons, isText_iff, isWidth_iff] at hvalues
    obtain ⟨opening, hopening⟩ := Given.exists_iff.mpr hvalues.1
    obtain ⟨closing, hclosing⟩ := Given.exists_iff.mpr hvalues.2.1
    obtain ⟨width, hwidth⟩ := Given.exists_iff.mpr hvalues.2.2.1
    exact ⟨⟨opening, closing, width⟩, hkeys, hopening, hclosing, hwidth⟩

lemma exists_describesRegion_iff {entries : Table} (hwf : entries.WellFormed) :
    (∃ style, DescribesRegion entries style) ↔ FitsTable regionKinds entries := by
  rw [fitsTable_iff (by decide) hwf.nodup]
  constructor
  · rintro ⟨style, h⟩
    refine ⟨h.keys, ?_⟩
    simp only [regionKinds, List.forall_mem_cons, isText_iff, isWidth_iff, isBranch_iff]
    exact ⟨Given.exists_iff.mp ⟨_, h.opening⟩, Given.exists_iff.mp ⟨_, h.closing⟩,
      Given.exists_iff.mp ⟨_, h.width⟩, Given.exists_iff.mp ⟨_, h.branch⟩, by simp⟩
  · rintro ⟨hkeys, hvalues⟩
    simp only [regionKinds, List.forall_mem_cons, isText_iff, isWidth_iff, isBranch_iff] at hvalues
    obtain ⟨opening, hopening⟩ := Given.exists_iff.mpr hvalues.1
    obtain ⟨closing, hclosing⟩ := Given.exists_iff.mpr hvalues.2.1
    obtain ⟨width, hwidth⟩ := Given.exists_iff.mpr hvalues.2.2.1
    obtain ⟨branch, hbranch⟩ := Given.exists_iff.mpr hvalues.2.2.2.1
    exact ⟨⟨opening, closing, width, branch⟩, hkeys, hopening, hclosing, hwidth, hbranch⟩

lemma exists_writesPart_iff {σ : Type} {keys : List String} {describes : Table → σ → Prop}
    {fits : Table → Prop} {value : Value}
    (h : ∀ entries, entriesOf keys value = some entries →
      ((∃ style, describes entries style) ↔ fits entries)) :
    (∃ style, WritesPart keys describes value style)
      ↔ ∃ entries, entriesOf keys value = some entries ∧ fits entries := by
  constructor
  · rintro ⟨style, entries, hentries, hdescribes⟩
    exact ⟨entries, hentries, (h entries hentries).mp ⟨style, hdescribes⟩⟩
  · rintro ⟨entries, hentries, hfits⟩
    obtain ⟨style, hdescribes⟩ := (h entries hentries).mpr hfits
    exact ⟨style, entries, hentries, hdescribes⟩

lemma exists_writesHeader_iff {value : Value} (hwf : value.WellFormed) :
    (∃ style, WritesPart headerKeys DescribesHeader value style)
      ↔ FitsPart headerKinds value := by
  rw [headerKinds, fitsPart_iff (by decide) hwf]
  refine exists_writesPart_iff ?_
  intro entries hentries
  exact exists_describesHeader_iff (wellFormed_of_entriesOf (by decide) hwf hentries)

lemma exists_writesRegion_iff {value : Value} (hwf : value.WellFormed) :
    (∃ style, WritesPart regionKeys DescribesRegion value style)
      ↔ FitsPart regionKinds value := by
  rw [regionKinds, fitsPart_iff (by decide) hwf]
  refine exists_writesPart_iff ?_
  intro entries hentries
  exact exists_describesRegion_iff (wellFormed_of_entriesOf (by decide) hwf hentries)

/-- **A document describes styles iff everything in it fits.** -/
theorem exists_describesStyles_iff {document : Table} (hwf : document.WellFormed) :
    (∃ styles, DescribesStyles document styles) ↔ FitsTable documentKinds document := by
  rw [fitsTable_iff (by decide) hwf.nodup]
  constructor
  · rintro ⟨styles, h⟩
    refine ⟨h.keys, ?_⟩
    simp only [documentKinds, List.forall_mem_cons]
    refine ⟨fun value hget => ?_, fun value hget => ?_, by simp⟩
    · exact (exists_writesHeader_iff (hwf.get? hget)).mp
        (Given.exists_iff.mp ⟨_, h.header⟩ value hget)
    · exact (exists_writesRegion_iff (hwf.get? hget)).mp
        (Given.exists_iff.mp ⟨_, h.region⟩ value hget)
  · rintro ⟨hkeys, hvalues⟩
    simp only [documentKinds, List.forall_mem_cons] at hvalues
    obtain ⟨header, hheader⟩ := Given.exists_iff.mpr fun value hget =>
      (exists_writesHeader_iff (hwf.get? hget)).mpr (hvalues.1 value hget)
    obtain ⟨region, hregion⟩ := Given.exists_iff.mpr fun value hget =>
      (exists_writesRegion_iff (hwf.get? hget)).mpr (hvalues.2.1 value hget)
    exact ⟨⟨header, region⟩, hkeys, hheader, hregion⟩

/-! ## What counts -/

/-- The value that a document gives to a field of a part, under its key or at its position. -/
def fieldValue (document : Table) (part : String) (keys : List String) (key : String) :
    Option Value :=
  ((document.get? part).bind (entriesOf keys)).bind fun entries => entries.get? key

/-- A part that is not given is as good as an empty one. -/
lemma describes_of_given {σ : Type} {keys : List String} {describes : Table → σ → Prop}
    {builtin style : σ} (hbuiltin : describes [] builtin) {given : Option Value}
    (h : Given (WritesPart keys describes) builtin given style) :
    describes ((given.bind (entriesOf keys)).getD []) style := by
  cases given with
  | none =>
      rw [show style = builtin from h]
      exact hbuiltin
  | some value =>
      obtain ⟨entries, hentries, hdescribes⟩ := h
      rw [Option.bind_some, hentries]
      exact hdescribes

lemma get?_getD (entries : Option Table) (key : String) :
    (entries.getD []).get? key = entries.bind fun entries => entries.get? key := by
  cases entries <;> rfl

/-- Each field of the styles is made of the value that a document gives to it; one that is not
given is built-in. -/
structure Merges (document : Table) (styles : Styles) : Prop where
  headerOpening : Given WritesText "/* =----" (fieldValue document "header" headerKeys "begin")
    styles.header.opening
  headerClosing : Given WritesText "-= */" (fieldValue document "header" headerKeys "end")
    styles.header.closing
  headerWidth : Given WritesWidth 69 (fieldValue document "header" headerKeys "width")
    styles.header.width
  regionOpening : Given WritesText "// +----" (fieldValue document "region" regionKeys "begin")
    styles.region.opening
  regionClosing : Given WritesText "----+" (fieldValue document "region" regionKeys "end")
    styles.region.closing
  regionWidth : Given WritesWidth 66 (fieldValue document "region" regionKeys "width")
    styles.region.width
  regionBranch : Given WritesBranch .dashCount (fieldValue document "region" regionKeys "branch")
    styles.region.branch

/-- **The fields are merged one by one.** -/
theorem DescribesStyles.merges {document : Table} {styles : Styles}
    (h : DescribesStyles document styles) : Merges document styles := by
  have hheader := describes_of_given ⟨by simp, rfl, rfl, rfl⟩ h.header
  have hregion := describes_of_given ⟨by simp, rfl, rfl, rfl, rfl⟩ h.region
  constructor <;> rw [fieldValue, ← get?_getD]
  · exact hheader.opening
  · exact hheader.closing
  · exact hheader.width
  · exact hregion.opening
  · exact hregion.closing
  · exact hregion.width
  · exact hregion.branch

/-! ## The same data -/

lemma WritesText.of_same {value value' : Value} (hsame : value.Same value') {text : String}
    (h : WritesText value text) : WritesText value' text := by
  cases h
  cases hsame
  exact .string text

lemma WritesWidth.of_same {value value' : Value} (hsame : value.Same value') {width : UInt64}
    (h : WritesWidth value width) : WritesWidth value' width := by
  obtain @⟨n, _, hn⟩ := h
  cases hsame
  exact .integer hn

/-- Keys that only one table can have. -/
lemma eq_singleton_of_keys {entries : Table} (hnodup : (entries.map Prod.fst).Nodup) {key : String}
    (hkeys : ∀ other, other ∈ entries.map Prod.fst ↔ other = key) :
    ∃ value, entries = [(key, value)] := by
  have hperm : (entries.map Prod.fst).Perm [key] :=
    (List.perm_ext_iff_of_nodup hnodup (List.nodup_singleton key)).mpr fun other => by
      rw [hkeys, List.mem_singleton]
  have hlength := hperm.length_eq
  rw [List.length_map, List.length_singleton] at hlength
  obtain ⟨entry, rfl⟩ := List.length_eq_one_iff.mp hlength
  have hkey : entry.1 = key := by simpa using hkeys entry.1
  exact ⟨entry.2, by rw [← hkey]⟩

lemma SaysNothing.of_same {value value' : Value} (hsame : value.Same value')
    (h : SaysNothing value) : SaysNothing value' := by
  cases h with
  | table origin =>
      cases hsame with
      | @table _ origin' _ entries' hkeys _ =>
          have hnil : entries' = [] := List.eq_nil_iff_forall_not_mem.mpr fun entry hentry =>
            Toml.Table.get?_eq_none_iff.mp ((hkeys entry.1).mp rfl) (List.mem_map_of_mem hentry)
          rw [hnil]
          exact .table origin'
  | array =>
      cases hsame with
      | array hlength _ =>
          obtain rfl := List.length_eq_zero_iff.mp hlength.symm
          exact .array

lemma WritesBranch.of_same {value value' : Value} (hwf : value'.WellFormed)
    (hsame : value.Same value') {branch : BranchPolicy} (h : WritesBranch value branch) :
    WritesBranch value' branch := by
  cases h with
  | name =>
      cases hsame
      exact .name branch
  | @entry origin _ content hcontent =>
      cases hsame with
      | @table _ origin' _ entries' hkeys hvalues =>
          have hentries : Table.Same [(branch.name, content)] entries' := ⟨hkeys, hvalues⟩
          have hkeys' : ∀ other, other ∈ entries'.map Prod.fst ↔ other = branch.name := by
            intro other
            rw [← hentries.mem_keys_iff]
            simp
          obtain ⟨content', rfl⟩ :=
            eq_singleton_of_keys (Toml.Value.WellFormed.table_iff.mp hwf).nodup hkeys'
          have hget : ∀ content : Value,
              Table.get? [(branch.name, content)] branch.name = some content := by
            intro content
            simp [Table.get?]
          exact .entry origin' branch
            (hcontent.of_same (hentries.values branch.name content content' (hget _) (hget _)))

/-- Items with the same data have the same data under the keys of their positions. -/
lemma zip_same (keys : List String) {items items' : List Value}
    (hlength : items.length = items'.length)
    (h : ∀ (i : ℕ) (a b : Value), items[i]? = some a → items'[i]? = some b → a.Same b) :
    Table.Same (keys.zip items) (keys.zip items') := by
  induction keys generalizing items items' with
  | nil => exact Toml.Table.Same.refl []
  | cons key keys ih =>
      cases items with
      | nil =>
          obtain rfl := List.length_eq_zero_iff.mp hlength.symm
          exact Toml.Table.Same.refl []
      | cons item items =>
          cases items' with
          | nil => simp at hlength
          | cons item' items' =>
              refine Toml.Table.Same.cons (h 0 item item' rfl rfl) ?_
              exact ih (Nat.succ.inj hlength) fun i a b ha hb => h (i + 1) a b ha hb

lemma entriesOf_same {keys : List String} {value value' : Value} (hsame : value.Same value')
    {entries : Table} (h : entriesOf keys value = some entries) :
    ∃ entries', entriesOf keys value' = some entries' ∧ entries.Same entries' := by
  cases hsame with
  | table hkeys hvalues =>
      obtain rfl := Option.some.inj h
      exact ⟨_, rfl, hkeys, hvalues⟩
  | array hlength hitems =>
      obtain rfl := Option.some.inj h
      exact ⟨_, rfl, zip_same keys hlength hitems⟩
  | tables hlength helements =>
      obtain rfl := Option.some.inj h
      refine ⟨_, rfl, zip_same keys (by simpa using hlength) ?_⟩
      intro i a b ha hb
      rw [List.getElem?_map, Option.map_eq_some_iff] at ha hb
      obtain ⟨element, helement, rfl⟩ := ha
      obtain ⟨element', helement', rfl⟩ := hb
      exact helements i element element' helement helement'
  | _ => simp [entriesOf] at h

/-- What is given by a table is given by every table with the same data. -/
lemma given_of_same {α : Type} {writes : Value → α → Prop} {builtin result : α}
    {entries entries' : Table} (hsame : entries.Same entries') {key : String}
    (hwrites : ∀ value value', entries'.get? key = some value' → value.Same value' →
      writes value result → writes value' result)
    (h : Given writes builtin (entries.get? key) result) :
    Given writes builtin (entries'.get? key) result := by
  cases hget : entries.get? key with
  | none =>
      rw [hget] at h
      rw [(hsame.keys key).mp hget]
      exact h
  | some value =>
      cases hget' : entries'.get? key with
      | none => simp [(hsame.keys key).mpr hget'] at hget
      | some value' =>
          rw [hget] at h
          exact hwrites value value' hget' (hsame.values key value value' hget hget') h

lemma DescribesHeader.of_same {entries entries' : Table} (hsame : entries.Same entries')
    {style : HeaderStyle} (h : DescribesHeader entries style) : DescribesHeader entries' style where
  keys key hkey := h.keys key ((hsame.mem_keys_iff key).mpr hkey)
  opening := given_of_same hsame (fun _ _ _ hvalue => WritesText.of_same hvalue) h.opening
  closing := given_of_same hsame (fun _ _ _ hvalue => WritesText.of_same hvalue) h.closing
  width := given_of_same hsame (fun _ _ _ hvalue => WritesWidth.of_same hvalue) h.width

lemma DescribesRegion.of_same {entries entries' : Table} (hwf : entries'.WellFormed)
    (hsame : entries.Same entries') {style : RegionStyle} (h : DescribesRegion entries style) :
    DescribesRegion entries' style where
  keys key hkey := h.keys key ((hsame.mem_keys_iff key).mpr hkey)
  opening := given_of_same hsame (fun _ _ _ hvalue => WritesText.of_same hvalue) h.opening
  closing := given_of_same hsame (fun _ _ _ hvalue => WritesText.of_same hvalue) h.closing
  width := given_of_same hsame (fun _ _ _ hvalue => WritesWidth.of_same hvalue) h.width
  branch := given_of_same hsame
    (fun _ _ hget hvalue => WritesBranch.of_same (hwf.get? hget) hvalue) h.branch

/-- **The styles of a document are those of every document with the same data.** -/
theorem DescribesStyles.of_same {document document' : Table} (hwf : document'.WellFormed)
    (hsame : document.Same document') {styles : Styles} (h : DescribesStyles document styles) :
    DescribesStyles document' styles where
  keys key hkey := h.keys key ((hsame.mem_keys_iff key).mpr hkey)
  header := by
    refine given_of_same hsame ?_ h.header
    intro value value' hget hvalue hwrites
    obtain ⟨entries, hentries, hdescribes⟩ := hwrites
    obtain ⟨entries', hentries', hsame'⟩ := entriesOf_same hvalue hentries
    exact ⟨entries', hentries', hdescribes.of_same hsame'⟩
  region := by
    refine given_of_same hsame ?_ h.region
    intro value value' hget hvalue hwrites
    obtain ⟨entries, hentries, hdescribes⟩ := hwrites
    obtain ⟨entries', hentries', hsame'⟩ := entriesOf_same hvalue hentries
    have hkeys : regionKeys.Nodup := by decide
    exact ⟨entries', hentries',
      hdescribes.of_same (wellFormed_of_entriesOf hkeys (hwf.get? hget) hentries') hsame'⟩

/-! ## Keys that no style has -/

lemma not_fitsTable_of_unknown {kinds : List (String × (Value → Prop))} {entries : Table}
    {entry : String × Value} (hentry : entry ∈ entries) (hunknown : entry.1 ∉ kinds.map Prod.fst) :
    ¬ FitsTable kinds entries := by
  intro h
  obtain ⟨kind, hkind, hkey, -⟩ := h entry hentry
  exact hunknown (hkey ▸ List.mem_map_of_mem hkind)

/-- A table with an unknown key keeps its part, and with it the document, from fitting. -/
lemma not_fitsTable_of_unknown_below {kinds inner : List (String × (Value → Prop))}
    (hkinds : (kinds.map Prod.fst).Nodup) {part : String} (hpart : (part, FitsPart inner) ∈ kinds)
    {document entries : Table} {origin : Toml.Origin}
    (hentries : (part, .table origin entries) ∈ document) {entry : String × Value}
    (hentry : entry ∈ entries) (hunknown : entry.1 ∉ inner.map Prod.fst) :
    ¬ FitsTable kinds document := by
  intro h
  obtain ⟨kind, hkind, hkey, hfits⟩ := h _ hentries
  rw [List.inj_on_of_nodup_map hkinds hkind hpart hkey] at hfits
  cases hfits with
  | table _ hfits => exact not_fitsTable_of_unknown hentry hunknown hfits

end Schema

open Schema

/-- A text with a document is read as styles, or refused because of its document. -/
lemma exists_ofToml_iff {text : String} {document : Table}
    (h : Table.ofText? text = some document) :
    ((∃ styles, Styles.ofToml text = .ok styles) ↔ FitsTable documentKinds document)
      ∧ (¬ FitsTable documentKinds document →
          ∃ error, Styles.ofToml text = .error (.schema error)) := by
  have hok : (∃ styles, Styles.ofToml text = .ok styles) ↔ FitsTable documentKinds document := by
    rw [← exists_describesStyles_iff (Toml.wellFormed_of_ofText? h)]
    refine exists_congr ?_
    intro styles
    simp [ofToml_eq_ok_iff, h]
  refine ⟨hok, ?_⟩
  intro hfits
  rw [← hok] at hfits
  unfold Styles.ofToml at hfits ⊢
  rw [h] at hfits ⊢
  cases hread : Styles.ofTable document with
  | ok styles => exact absurd ⟨styles, by simp [hread, Except.mapError]⟩ hfits
  | error error => exact ⟨error, by simp [hread, Except.mapError]⟩

/-- **What is accepted, and what is made of it.**  A text that is a document describes styles iff
every key in it is known and every value is of the kind of its key or of its position.  Each field
is then the value given to it, or built-in.  So texts whose documents hold the same data describe
the same styles, and a key that no style has, in the document or in one of its tables, keeps the
text from being accepted. -/
theorem styles_of_document {text : String} {document : Table}
    (h : Table.ofText? text = some document) :
    ((∃ styles, Styles.ofToml text = .ok styles) ↔ FitsTable documentKinds document)
      ∧ (∀ styles, Styles.ofToml text = .ok styles → Merges document styles)
      ∧ (∀ (text' : String) (document' : Table), Table.ofText? text' = some document' →
          document.Same document' →
          ∀ styles, Styles.ofToml text = .ok styles ↔ Styles.ofToml text' = .ok styles)
      ∧ (∀ entry ∈ document, entry.1 ∉ documentKeys →
          ∃ error, Styles.ofToml text = .error (.schema error))
      ∧ (∀ part ∈ [("header", headerKeys), ("region", regionKeys)],
          ∀ (origin : Toml.Origin) (entries : Table), (part.1, .table origin entries) ∈ document →
          ∀ entry ∈ entries, entry.1 ∉ part.2 →
          ∃ error, Styles.ofToml text = .error (.schema error)) := by
  obtain ⟨haccepted, hrefused⟩ := exists_ofToml_iff h
  refine ⟨haccepted, ?_, ?_, ?_, ?_⟩
  · intro styles hstyles
    obtain ⟨document', hdocument', hdescribes⟩ := ofToml_eq_ok_iff.mp hstyles
    obtain rfl := Option.some.inj (h.symm.trans hdocument')
    exact hdescribes.merges
  · intro text' document' h' hsame styles
    simp only [ofToml_eq_ok_iff, h, h', Option.some.injEq, exists_eq_left']
    exact ⟨DescribesStyles.of_same (Toml.wellFormed_of_ofText? h') hsame,
      DescribesStyles.of_same (Toml.wellFormed_of_ofText? h) hsame.symm⟩
  · intro entry hentry hunknown
    exact hrefused (not_fitsTable_of_unknown hentry hunknown)
  · intro part hpart origin entries hentries entry hentry hunknown
    simp only [List.mem_cons, List.not_mem_nil, or_false] at hpart
    have hkinds : (documentKinds.map Prod.fst).Nodup := by decide
    rcases hpart with rfl | rfl
    · exact hrefused (not_fitsTable_of_unknown_below hkinds List.mem_cons_self hentries hentry
        hunknown)
    · exact hrefused (not_fitsTable_of_unknown_below hkinds
        (List.mem_cons_of_mem _ List.mem_cons_self) hentries hentry hunknown)

/-- A branch policy as a table under a header of its own, below other styles with dots; and the same
styles in braces, in another order. -/
theorem styles_of_document_of_branch_table :
    ∃ styles, Styles.ofToml "header.width = 80\n[region.branch]\nlabel = []\n" = .ok styles
      ∧ Styles.ofToml "region = \x7bbranch.label = []\x7d\nheader = \x7bwidth = 80\x7d\n"
        = .ok styles
      ∧ styles.header.width = 80 ∧ styles.region.branch = .label := by
  have hdocument : Table.ofText? "header.width = 80\n[region.branch]\nlabel = []\n"
      = some [("header", .table .dotted [("width", .integer 80)]),
          ("region", .table .implied [("branch", .table .defined [("label", .array [])])])] := by
    with_unfolding_all rfl
  have hbraces : Table.ofText?
        "region = \x7bbranch.label = []\x7d\nheader = \x7bwidth = 80\x7d\n"
      = some [("region", .table .inline [("branch", .table .dotted [("label", .array [])])]),
          ("header", .table .inline [("width", .integer 80)])] := by
    with_unfolding_all rfl
  obtain ⟨haccepted, hmerges, hsame, -⟩ := styles_of_document hdocument
  have hfits : FitsTable documentKinds [("header", .table .dotted [("width", .integer 80)]),
      ("region", .table .implied [("branch", .table .defined [("label", .array [])])])] := by
    simp only [FitsTable, List.forall_mem_cons]
    refine ⟨⟨_, List.mem_cons_self, rfl, .table _ ?_⟩,
      ⟨_, List.mem_cons_of_mem _ List.mem_cons_self, rfl, .table _ ?_⟩, by simp⟩
    · simp [FitsTable, headerKinds, IsWidth]
    · simp [FitsTable, regionKinds, IsBranch]
  obtain ⟨styles, hstyles⟩ := haccepted.mpr hfits
  have hwidth := (hmerges styles hstyles).headerWidth
  have hbranch := (hmerges styles hstyles).regionBranch
  refine ⟨styles, hstyles, (hsame _ _ hbraces ?_ styles).mp hstyles, ?_, ?_⟩
  · refine (Toml.Table.Same.of_perm (by simp) (List.Perm.swap _ _ [])).trans ?_
    refine .cons (Toml.Value.Same.table_iff.mpr (.cons ?_ (.refl []))) (.cons ?_ (.refl []))
    · exact Toml.Value.Same.table_iff.mpr (.refl _)
    · exact Toml.Value.Same.table_iff.mpr (.refl _)
  · exact Except.ok.inj (width_eq_ok_iff.mpr hwidth).symm
  · have hwf : Value.WellFormed (.table .defined [("label", .array [])]) :=
      .table (by simp) (by simpa using .array (by simp))
    exact Except.ok.inj ((branch_eq_ok_iff hwf).mpr hbranch).symm

end CommentSeparator
