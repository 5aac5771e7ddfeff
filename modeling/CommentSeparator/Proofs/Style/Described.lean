import CommentSeparator.Proofs.Style.Field
import Mathlib.Data.Int.Notation

/-!
# What a document says about styles

The schema of style files as relations between a tree and what it stands for, without an order of
reading and without errors.

* `WritesText`, `WritesWidth`, `WritesBranch` — the values of the three kinds of fields.
* `entriesOf` — the entries of a part of a document: a table has them under their keys, an array
  lists them in the order of the fields.
* `DescribesHeader`, `DescribesRegion`, `DescribesStyles` — all keys are known, and each field is
  what the value under its key says, or built-in.

**`ofTable_eq_ok_iff`**: on a well-formed tree, reading gives exactly the styles that the tree
describes.  Its three parts for the three structures have the same shape.  One lemma each says what
a field can change (`header_set_cases`, `region_set_cases`, `styles_set_cases`); from it
`Field.given_of_readTable` gives the fields of a result that is read.  What is described is unique,
and all its entries fit, so it is what is read (`Field.readTable_eq_ok_iff`).
-/

namespace CommentSeparator

open Toml (Value Table)

namespace Schema

/-! ## Values -/

/-- A text is written as a string. -/
inductive WritesText : Value → String → Prop
  | string (text : String) : WritesText (.string text) text

/-- A width is written as an integer from zero on. -/
inductive WritesWidth : Value → UInt64 → Prop
  | integer {value : Int64} {width : UInt64} : value.toInt = width.toNat →
      WritesWidth (.integer value) width

/-- What stands beside the name of a branch policy says nothing more: an empty table or an empty
array in brackets. -/
inductive SaysNothing : Value → Prop
  | table (origin : Toml.Origin) : SaysNothing (.table origin [])
  | array : SaysNothing (.array [])

/-- A branch policy is written as its name, or as a table with its name as the only key. -/
inductive WritesBranch : Value → BranchPolicy → Prop
  | name (branch : BranchPolicy) : WritesBranch (.string branch.name) branch
  | entry (origin : Toml.Origin) (branch : BranchPolicy) {content : Value} :
      SaysNothing content → WritesBranch (.table origin [(branch.name, content)]) branch

lemma text_eq_ok_iff {value : Value} {result : String} :
    text value = .ok result ↔ WritesText value result := by
  constructor
  · intro h
    cases value with
    | string written => exact Except.ok.inj h ▸ .string written
    | _ => simp [text] at h
  · rintro ⟨⟩
    rfl

/-- An integer that is not negative has the same bits as the width of the same value. -/
lemma toNat_toUInt64 {n : Int64} (hn : 0 ≤ n.toInt) : (n.toUInt64.toNat : ℤ) = n.toInt := by
  have hle : 0 ≤ n := by simpa [Int64.le_iff_toInt_le] using hn
  rw [Int64.toNat_toUInt64_of_le hle, Int64.toNatClampNeg, Int.toNat_of_nonneg hn]

/-- The integers of a document that are not negative are the widths below 2^63. -/
lemma width_eq_ok_iff {value : Value} {result : UInt64} :
    width value = .ok result ↔ WritesWidth value result := by
  constructor
  · intro h
    cases value with
    | integer n =>
        rw [width] at h
        split_ifs at h with hneg
        obtain rfl := Except.ok.inj h
        have hn : 0 ≤ n.toInt := by simpa [Int64.lt_iff_toInt_lt] using hneg
        exact .integer (toNat_toUInt64 hn).symm
    | _ => simp [width] at h
  · rintro @⟨n, _, h⟩
    have hn : 0 ≤ n.toInt := by omega
    have hneg : ¬ n < 0 := by simpa [Int64.lt_iff_toInt_lt] using hn
    have hvalue : n.toUInt64 = result := by
      have := toNat_toUInt64 hn
      exact UInt64.toNat_inj.mp (by omega)
    rw [width, if_neg hneg, hvalue]

lemma branchNamed_eq_ok_iff {name : String} {result : BranchPolicy} :
    branchNamed name = .ok result ↔ name = result.name := by
  constructor
  · intro h
    rw [branchNamed] at h
    split at h
    · rename_i branch hfind
      obtain rfl := Except.ok.inj h
      simpa [eq_comm] using List.find?_some hfind
    · simp at h
  · rintro rfl
    cases result <;> rfl

lemma noContent_eq_ok_iff {value : Value} (hwf : value.WellFormed) :
    noContent value = .ok () ↔ SaysNothing value := by
  constructor
  · intro h
    cases value with
    | table origin entries =>
        cases entries with
        | nil => exact .table origin
        | cons entry entries => simp [noContent] at h
    | array items =>
        cases items with
        | nil => exact .array
        | cons item items => simp [noContent] at h
    | tables elements =>
        cases elements with
        | nil => exact absurd rfl (Toml.Value.WellFormed.tables_iff.mp hwf).1
        | cons element elements => simp [noContent] at h
    | _ => simp [noContent] at h
  · rintro (_ | _) <;> rfl

lemma branch_eq_ok_iff {value : Value} (hwf : value.WellFormed) {result : BranchPolicy} :
    branch value = .ok result ↔ WritesBranch value result := by
  constructor
  · intro h
    unfold branch at h
    split at h
    · obtain rfl := branchNamed_eq_ok_iff.mp h
      exact .name result
    · simp at h
    · rename_i origin name content
      obtain ⟨found, hname, hrest⟩ := Except.bind_eq_ok.mp h
      obtain ⟨⟨⟩, hcontent, hpure⟩ := Except.bind_eq_ok.mp hrest
      obtain rfl := Except.ok.inj hpure
      obtain rfl := branchNamed_eq_ok_iff.mp hname
      have hwf' := (Toml.Value.WellFormed.table_iff.mp hwf).entries _ List.mem_cons_self
      exact .entry origin found ((noContent_eq_ok_iff hwf').mp hcontent)
    · simp at h
    · simp at h
  · rintro (_ | ⟨origin, _, hcontent⟩)
    · exact branchNamed_eq_ok_iff.mpr rfl
    · have hwf' := (Toml.Value.WellFormed.table_iff.mp hwf).entries _ List.mem_cons_self
      simp only [branch, Except.bind_eq_ok]
      exact ⟨result, branchNamed_eq_ok_iff.mpr rfl, (), (noContent_eq_ok_iff hwf').mpr hcontent,
        rfl⟩

/-! ## Parts of a document -/

/-- The keys of the style of headers, in the order of their positions in an array. -/
def headerKeys : List String := ["begin", "end", "width"]

/-- The keys of the style of regions. -/
def regionKeys : List String := ["begin", "end", "width", "branch"]

/-- The keys of a document. -/
def documentKeys : List String := ["header", "region"]

/-- The entries of a part of a document: those of a table, or the items of an array under the keys
of their positions.  Items without a position do not count. -/
def entriesOf (keys : List String) : Value → Option Table
  | .table _ entries => some entries
  | .array items => some (keys.zip items)
  | .tables elements => some (keys.zip (elements.map (.table .defined)))
  | _ => none

/-- What entries say about the style of headers. -/
structure DescribesHeader (entries : Table) (style : HeaderStyle) : Prop where
  keys : ∀ key ∈ entries.map Prod.fst, key ∈ headerKeys
  opening : Given WritesText "/* =----" (entries.get? "begin") style.opening
  closing : Given WritesText "-= */" (entries.get? "end") style.closing
  width : Given WritesWidth 69 (entries.get? "width") style.width

/-- What entries say about the style of regions. -/
structure DescribesRegion (entries : Table) (style : RegionStyle) : Prop where
  keys : ∀ key ∈ entries.map Prod.fst, key ∈ regionKeys
  opening : Given WritesText "// +----" (entries.get? "begin") style.opening
  closing : Given WritesText "----+" (entries.get? "end") style.closing
  width : Given WritesWidth 66 (entries.get? "width") style.width
  branch : Given WritesBranch .dashCount (entries.get? "branch") style.branch

/-- A part of a document, as entries that say something. -/
def WritesPart {σ : Type} (keys : List String) (describes : Table → σ → Prop) (value : Value)
    (style : σ) : Prop :=
  ∃ entries, entriesOf keys value = some entries ∧ describes entries style

/-- What a document says about styles. -/
structure DescribesStyles (document : Table) (styles : Styles) : Prop where
  keys : ∀ key ∈ document.map Prod.fst, key ∈ documentKeys
  header : Given (WritesPart headerKeys DescribesHeader) {} (document.get? "header") styles.header
  region : Given (WritesPart regionKeys DescribesRegion) {} (document.get? "region") styles.region

/-! ## Uniqueness -/

lemma WritesText.unique {value : Value} {a b : String} (ha : WritesText value a)
    (hb : WritesText value b) : a = b :=
  Except.ok.inj ((text_eq_ok_iff.mpr ha).symm.trans (text_eq_ok_iff.mpr hb))

lemma WritesWidth.unique {value : Value} {a b : UInt64} (ha : WritesWidth value a)
    (hb : WritesWidth value b) : a = b :=
  Except.ok.inj ((width_eq_ok_iff.mpr ha).symm.trans (width_eq_ok_iff.mpr hb))

lemma WritesBranch.unique {value : Value} (hwf : value.WellFormed) {a b : BranchPolicy}
    (ha : WritesBranch value a) (hb : WritesBranch value b) : a = b :=
  Except.ok.inj (((branch_eq_ok_iff hwf).mpr ha).symm.trans ((branch_eq_ok_iff hwf).mpr hb))

lemma DescribesHeader.unique {entries : Table} {style style' : HeaderStyle}
    (h : DescribesHeader entries style) (h' : DescribesHeader entries style') : style = style' := by
  obtain ⟨opening, closing, width⟩ := style
  have hopening := h.opening.unique h'.opening fun _ _ => WritesText.unique
  have hclosing := h.closing.unique h'.closing fun _ _ => WritesText.unique
  have hwidth := h.width.unique h'.width fun _ _ => WritesWidth.unique
  simp_all

lemma DescribesRegion.unique {entries : Table} (hwf : entries.WellFormed)
    {style style' : RegionStyle} (h : DescribesRegion entries style)
    (h' : DescribesRegion entries style') : style = style' := by
  obtain ⟨opening, closing, width, branch⟩ := style
  have hopening := h.opening.unique h'.opening fun _ _ => WritesText.unique
  have hclosing := h.closing.unique h'.closing fun _ _ => WritesText.unique
  have hwidth := h.width.unique h'.width fun _ _ => WritesWidth.unique
  have hbranch := h.branch.unique h'.branch fun _ hget => WritesBranch.unique (hwf.get? hget)
  simp_all

/-! ## Headers -/

/-- What a field of the style of headers can change. -/
lemma header_set_cases {field : Field HeaderStyle} (hfield : field ∈ HeaderStyle.fields)
    {value : Value} {target result : HeaderStyle} (h : field.set value target = .ok result) :
    (field.key = "begin" ∧ ∃ opening, WritesText value opening ∧ result = { target with opening })
      ∨ (field.key = "end"
          ∧ ∃ closing, WritesText value closing ∧ result = { target with closing })
      ∨ (field.key = "width"
          ∧ ∃ width, WritesWidth value width ∧ result = { target with width }) := by
  simp only [HeaderStyle.fields, List.mem_cons, List.not_mem_nil, or_false] at hfield
  rcases hfield with rfl | rfl | rfl <;>
    obtain ⟨a, ha, rfl⟩ := Field.set_holding_eq_ok.mp h
  · exact Or.inl ⟨rfl, a, text_eq_ok_iff.mp ha, rfl⟩
  · exact Or.inr (Or.inl ⟨rfl, a, text_eq_ok_iff.mp ha, rfl⟩)
  · exact Or.inr (Or.inr ⟨rfl, a, width_eq_ok_iff.mp ha, rfl⟩)

lemma header_shows :
    Field.Shows HeaderStyle.fields "begin" WritesText HeaderStyle.opening
      ∧ Field.Shows HeaderStyle.fields "end" WritesText HeaderStyle.closing
      ∧ Field.Shows HeaderStyle.fields "width" WritesWidth HeaderStyle.width := by
  refine ⟨?_, ?_, ?_⟩ <;> constructor <;> rintro field hfield hkey value target result h <;>
    rcases header_set_cases hfield h with ⟨hk, a, ha, rfl⟩ | ⟨hk, a, ha, rfl⟩ | ⟨hk, a, ha, rfl⟩ <;>
    simp_all

/-- **The entries of the style of headers** are read as what they describe. -/
lemma readTable_header_iff {entries : Table} (hwf : entries.WellFormed) {style : HeaderStyle} :
    Field.readTable HeaderStyle.fields {} entries = .ok style
      ↔ DescribesHeader entries style := by
  obtain ⟨hopening, hclosing, hwidth⟩ := header_shows
  refine Field.readTable_eq_ok_iff (fun style h => ?_) (fun _ _ => DescribesHeader.unique) ?_
  · exact
      { keys := Field.keys_of_readTable h
        opening := Field.given_of_readTable hopening hwf.nodup h
        closing := Field.given_of_readTable hclosing hwf.nodup h
        width := Field.given_of_readTable hwidth hwf.nodup h }
  · rintro style h ⟨key, value⟩ hmem
    have hget := Toml.Table.get?_of_mem hwf.nodup hmem
    have hkey := h.keys key (List.mem_map_of_mem hmem)
    simp only [headerKeys, List.mem_cons, List.not_mem_nil, or_false] at hkey
    rcases hkey with rfl | rfl | rfl
    · exact ⟨_, rfl, Field.reads_holding (text_eq_ok_iff.mpr (h.opening.of_eq_some hget))⟩
    · exact ⟨_, rfl, Field.reads_holding (text_eq_ok_iff.mpr (h.closing.of_eq_some hget))⟩
    · exact ⟨_, rfl, Field.reads_holding (width_eq_ok_iff.mpr (h.width.of_eq_some hget))⟩

/-! ## Regions -/

/-- What a field of the style of regions can change. -/
lemma region_set_cases {field : Field RegionStyle} (hfield : field ∈ RegionStyle.fields)
    {value : Value} {target result : RegionStyle} (h : field.set value target = .ok result) :
    (field.key = "begin" ∧ ∃ opening, WritesText value opening ∧ result = { target with opening })
      ∨ (field.key = "end"
          ∧ ∃ closing, WritesText value closing ∧ result = { target with closing })
      ∨ (field.key = "width"
          ∧ ∃ width, WritesWidth value width ∧ result = { target with width })
      ∨ (field.key = "branch"
          ∧ ∃ found, branch value = .ok found ∧ result = { target with branch := found }) := by
  simp only [RegionStyle.fields, List.mem_cons, List.not_mem_nil, or_false] at hfield
  rcases hfield with rfl | rfl | rfl | rfl <;>
    obtain ⟨a, ha, rfl⟩ := Field.set_holding_eq_ok.mp h
  · exact Or.inl ⟨rfl, a, text_eq_ok_iff.mp ha, rfl⟩
  · exact Or.inr (Or.inl ⟨rfl, a, text_eq_ok_iff.mp ha, rfl⟩)
  · exact Or.inr (Or.inr (Or.inl ⟨rfl, a, width_eq_ok_iff.mp ha, rfl⟩))
  · exact Or.inr (Or.inr (Or.inr ⟨rfl, a, ha, rfl⟩))

lemma region_shows :
    Field.Shows RegionStyle.fields "begin" WritesText RegionStyle.opening
      ∧ Field.Shows RegionStyle.fields "end" WritesText RegionStyle.closing
      ∧ Field.Shows RegionStyle.fields "width" WritesWidth RegionStyle.width
      ∧ Field.Shows RegionStyle.fields "branch" (fun value found => branch value = .ok found)
          RegionStyle.branch := by
  refine ⟨?_, ?_, ?_, ?_⟩ <;> constructor <;> rintro field hfield hkey value target result h <;>
    rcases region_set_cases hfield h with
      ⟨hk, a, ha, rfl⟩ | ⟨hk, a, ha, rfl⟩ | ⟨hk, a, ha, rfl⟩ | ⟨hk, a, ha, rfl⟩ <;>
    simp_all

/-- **The entries of the style of regions** are read as what they describe. -/
lemma readTable_region_iff {entries : Table} (hwf : entries.WellFormed) {style : RegionStyle} :
    Field.readTable RegionStyle.fields {} entries = .ok style
      ↔ DescribesRegion entries style := by
  obtain ⟨hopening, hclosing, hwidth, hbranch⟩ := region_shows
  refine Field.readTable_eq_ok_iff (fun style h => ?_) (fun _ _ => DescribesRegion.unique hwf) ?_
  · exact
      { keys := Field.keys_of_readTable h
        opening := Field.given_of_readTable hopening hwf.nodup h
        closing := Field.given_of_readTable hclosing hwf.nodup h
        width := Field.given_of_readTable hwidth hwf.nodup h
        branch := (Given.congr (fun value hget _ => branch_eq_ok_iff (hwf.get? hget)) _).mp
          (Field.given_of_readTable hbranch hwf.nodup h) }
  · rintro style h ⟨key, value⟩ hmem
    have hget := Toml.Table.get?_of_mem hwf.nodup hmem
    have hkey := h.keys key (List.mem_map_of_mem hmem)
    simp only [regionKeys, List.mem_cons, List.not_mem_nil, or_false] at hkey
    rcases hkey with rfl | rfl | rfl | rfl
    · exact ⟨_, rfl, Field.reads_holding (text_eq_ok_iff.mpr (h.opening.of_eq_some hget))⟩
    · exact ⟨_, rfl, Field.reads_holding (text_eq_ok_iff.mpr (h.closing.of_eq_some hget))⟩
    · exact ⟨_, rfl, Field.reads_holding (width_eq_ok_iff.mpr (h.width.of_eq_some hget))⟩
    · exact ⟨_, rfl, Field.reads_holding
        ((branch_eq_ok_iff (hwf.get? hget)).mpr (h.branch.of_eq_some hget))⟩

/-! ## Documents -/

/-- Positions take each key at most once. -/
lemma fst_zip_sublist (keys : List String) (items : List Value) :
    ((keys.zip items).map Prod.fst).Sublist keys := by
  induction keys generalizing items with
  | nil => exact List.Sublist.refl _
  | cons key keys ih =>
      cases items with
      | nil => exact List.nil_sublist _
      | cons item items => exact (ih items).cons_cons key

/-- The entries of a part of a well-formed document are well-formed. -/
lemma wellFormed_of_entriesOf {keys : List String} (hkeys : keys.Nodup) {value : Value}
    (hwf : value.WellFormed) {entries : Table} (h : entriesOf keys value = some entries) :
    entries.WellFormed := by
  have hpositions : ∀ items : List Value, (∀ item ∈ items, item.WellFormed) →
      Toml.Table.WellFormed (keys.zip items) := by
    intro items hitems
    constructor
    · exact hkeys.sublist (fst_zip_sublist keys items)
    · exact fun entry hentry => hitems entry.2 (List.of_mem_zip hentry).2
  cases value with
  | table origin own =>
      obtain rfl := Option.some.inj h
      exact Toml.Value.WellFormed.table_iff.mp hwf
  | array items =>
      obtain rfl := Option.some.inj h
      cases hwf with
      | array hitems => exact hpositions items hitems
  | tables elements =>
      obtain rfl := Option.some.inj h
      refine hpositions _ ?_
      intro item hitem
      obtain ⟨element, helement, rfl⟩ := List.mem_map.mp hitem
      exact Toml.Value.WellFormed.table_iff.mpr
        ((Toml.Value.WellFormed.tables_iff.mp hwf).2 element helement)
  | _ => simp [entriesOf] at h

/-- A part of a document is read by its entries; a date-time has an entry that no field knows. -/
lemma readAll_eq_ok_iff {σ : Type} {fields : List (Field σ)} {expected : Expected} {target : σ}
    (hkeys : (fields.map Field.key).Nodup) (hdateTime : Field.dateTimeKey ∉ fields.map Field.key)
    {value : Value} {result : σ} :
    Field.readAll fields expected target value = .ok result
      ↔ ∃ entries, entriesOf (fields.map Field.key) value = some entries
          ∧ Field.readTable fields target entries = .ok result := by
  cases value with
  | dateTime text =>
      simp only [Field.readAll, entriesOf, reduceCtorEq, false_and, exists_false, iff_false]
      intro h
      exact hdateTime (Field.keys_of_readTable h _ (by simp))
  | _ => simp [Field.readAll, entriesOf, Field.readItems_eq_readTable hkeys]

lemma header_ofValue_iff {value : Value} (hwf : value.WellFormed) {style : HeaderStyle} :
    HeaderStyle.ofValue value = .ok style ↔ WritesPart headerKeys DescribesHeader value style := by
  rw [HeaderStyle.ofValue, readAll_eq_ok_iff (by decide) (by decide)]
  refine exists_congr fun entries => and_congr_right ?_
  intro hentries
  exact readTable_header_iff (wellFormed_of_entriesOf (by decide) hwf hentries)

lemma region_ofValue_iff {value : Value} (hwf : value.WellFormed) {style : RegionStyle} :
    RegionStyle.ofValue value = .ok style ↔ WritesPart regionKeys DescribesRegion value style := by
  rw [RegionStyle.ofValue, readAll_eq_ok_iff (by decide) (by decide)]
  refine exists_congr fun entries => and_congr_right ?_
  intro hentries
  exact readTable_region_iff (wellFormed_of_entriesOf (by decide) hwf hentries)

/-- A part says one style at most. -/
lemma WritesPart.unique {σ : Type} {keys : List String} {describes : Table → σ → Prop}
    (hkeys : keys.Nodup) {value : Value} (hwf : value.WellFormed) {a b : σ}
    (ha : WritesPart keys describes value a) (hb : WritesPart keys describes value b)
    (hdescribes : ∀ entries : Table, entries.WellFormed → describes entries a →
      describes entries b → a = b) : a = b := by
  obtain ⟨entries, hentries, ha⟩ := ha
  obtain ⟨entries', hentries', hb⟩ := hb
  obtain rfl := Option.some.inj (hentries.symm.trans hentries')
  exact hdescribes entries (wellFormed_of_entriesOf hkeys hwf hentries) ha hb

lemma DescribesStyles.unique {document : Table} (hwf : document.WellFormed)
    {styles styles' : Styles} (h : DescribesStyles document styles)
    (h' : DescribesStyles document styles') : styles = styles' := by
  obtain ⟨header, region⟩ := styles
  have hheaderKeys : headerKeys.Nodup := by decide
  have hregionKeys : regionKeys.Nodup := by decide
  have hheader := h.header.unique h'.header fun value hget ha hb =>
    WritesPart.unique hheaderKeys (hwf.get? hget) ha hb fun _ _ => DescribesHeader.unique
  have hregion := h.region.unique h'.region fun value hget ha hb =>
    WritesPart.unique hregionKeys (hwf.get? hget) ha hb fun _ hentries =>
      DescribesRegion.unique hentries
  simp_all

/-- What a table of a document can change. -/
lemma styles_set_cases {field : Field Styles} (hfield : field ∈ Styles.fields)
    {value : Value} {target result : Styles} (h : field.set value target = .ok result) :
    (field.key = "header"
        ∧ ∃ header, HeaderStyle.ofValue value = .ok header ∧ result = { target with header })
      ∨ (field.key = "region"
          ∧ ∃ region, RegionStyle.ofValue value = .ok region
            ∧ result = { target with region }) := by
  simp only [Styles.fields, List.mem_cons, List.not_mem_nil, or_false] at hfield
  rcases hfield with rfl | rfl <;> obtain ⟨a, ha, rfl⟩ := Field.set_holding_eq_ok.mp h
  · exact Or.inl ⟨rfl, a, ha, rfl⟩
  · exact Or.inr ⟨rfl, a, ha, rfl⟩

lemma styles_shows :
    Field.Shows Styles.fields "header" (fun value style => HeaderStyle.ofValue value = .ok style)
        Styles.header
      ∧ Field.Shows Styles.fields "region"
        (fun value style => RegionStyle.ofValue value = .ok style) Styles.region := by
  refine ⟨?_, ?_⟩ <;> constructor <;> rintro field hfield hkey value target result h <;>
    rcases styles_set_cases hfield h with ⟨hk, a, ha, rfl⟩ | ⟨hk, a, ha, rfl⟩ <;> simp_all

/-- **A document is read as the styles that it describes.** -/
theorem ofTable_eq_ok_iff {document : Table} (hwf : document.WellFormed) {styles : Styles} :
    Styles.ofTable document = .ok styles ↔ DescribesStyles document styles := by
  obtain ⟨hheader, hregion⟩ := styles_shows
  refine Field.readTable_eq_ok_iff (fun styles h => ?_) (fun _ _ => DescribesStyles.unique hwf) ?_
  · exact
      { keys := Field.keys_of_readTable h
        header := (Given.congr (fun value hget _ => header_ofValue_iff (hwf.get? hget)) _).mp
          (Field.given_of_readTable hheader hwf.nodup h)
        region := (Given.congr (fun value hget _ => region_ofValue_iff (hwf.get? hget)) _).mp
          (Field.given_of_readTable hregion hwf.nodup h) }
  · rintro styles h ⟨key, value⟩ hmem
    have hget := Toml.Table.get?_of_mem hwf.nodup hmem
    have hkey := h.keys key (List.mem_map_of_mem hmem)
    simp only [documentKeys, List.mem_cons, List.not_mem_nil, or_false] at hkey
    rcases hkey with rfl | rfl
    · exact ⟨_, rfl, Field.reads_holding
        ((header_ofValue_iff (hwf.get? hget)).mpr (h.header.of_eq_some hget))⟩
    · exact ⟨_, rfl, Field.reads_holding
        ((region_ofValue_iff (hwf.get? hget)).mpr (h.region.of_eq_some hget))⟩

/-- The styles of a text are those that its document describes; a text without a document has
none. -/
theorem ofToml_eq_ok_iff {text : String} {styles : Styles} :
    Styles.ofToml text = .ok styles
      ↔ ∃ document, Table.ofText? text = some document ∧ DescribesStyles document styles := by
  unfold Styles.ofToml
  cases hdocument : Table.ofText? text with
  | none => simp
  | some document =>
      simp only [Option.some.injEq, exists_eq_left']
      rw [Except.mapError_eq_ok]
      exact ofTable_eq_ok_iff (Toml.wellFormed_of_ofText? hdocument)

end Schema

end CommentSeparator
