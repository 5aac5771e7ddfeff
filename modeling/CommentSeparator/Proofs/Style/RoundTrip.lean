import CommentSeparator.Proofs.Style.Accepted
import CommentSeparator.Proofs.Toml.DocumentLine

/-!
# Styles that are written and read

Every value of `Styles` whose widths fit into a document is written as a text that reads back to it:
the delimiters may be any texts at all.

The text has nine lines with something in them.  `statements?_header` and `statements?_region` read
them one by one, each as the statement that it was written for (`Proofs.Toml.DocumentLine`).  What
the statements build is found by computation, because no key depends on the styles
(`ofStatements?_written`), and it describes the styles that were written (`ofToml_toToml?`).

In the other direction a document cannot hold a width that does not fit (`width_lt_of_given`), so
whatever has been read can be written.
-/

namespace CommentSeparator

open Toml (Value Table Statement integerBound)

/-! ## The statements of a written document -/

/-- The statements for the style of headers. -/
def HeaderStyle.statements (style : HeaderStyle) : List Statement :=
  [.table ⟨[], "header"⟩, .assign ⟨[], "begin"⟩ (.string style.opening),
    .assign ⟨[], "end"⟩ (.string style.closing),
    .assign ⟨[], "width"⟩ (.integer style.width.toInt64)]

/-- The statements for the style of regions. -/
def RegionStyle.statements (style : RegionStyle) : List Statement :=
  [.table ⟨[], "region"⟩, .assign ⟨[], "begin"⟩ (.string style.opening),
    .assign ⟨[], "end"⟩ (.string style.closing),
    .assign ⟨[], "width"⟩ (.integer style.width.toInt64),
    .assign ⟨[], "branch"⟩ (.string style.branch.name)]

lemma widthText?_eq_some_iff {width : UInt64} {text : String} :
    Toml.widthText? width = some text
      ↔ width.toNat < integerBound ∧ text = toString width.toNat := by
  unfold Toml.widthText?
  split_ifs with h
  · simp [h, eq_comm]
  · simp [h]

/-- The written style of headers, in front of anything. -/
lemma statements?_header {style : HeaderStyle} {text : String} (h : style.toToml? = some text)
    (rest : List Char) :
    Toml.statements? (text.toList ++ rest)
      = (Toml.statements? rest).map fun more => style.statements ++ more := by
  obtain ⟨width, hwidth, hpure⟩ := Option.bind_eq_some_iff.mp h
  obtain ⟨hbound, rfl⟩ := widthText?_eq_some_iff.mp hwidth
  obtain rfl := Option.some.inj hpure
  have hheader : "[header]\n" = Toml.headerLine "header" := rfl
  simp only [hheader, String.toList_append, List.append_assoc]
  rw [Toml.statements?_headerLine (by decide), Toml.statements?_textLine (by decide),
    Toml.statements?_textLine (by decide), Toml.statements?_widthLine (by decide) hbound]
  simp only [Option.map_map]
  rfl

/-- The written style of regions, in front of anything. -/
lemma statements?_region {style : RegionStyle} {text : String} (h : style.toToml? = some text)
    (rest : List Char) :
    Toml.statements? (text.toList ++ rest)
      = (Toml.statements? rest).map fun more => style.statements ++ more := by
  obtain ⟨width, hwidth, hpure⟩ := Option.bind_eq_some_iff.mp h
  obtain ⟨hbound, rfl⟩ := widthText?_eq_some_iff.mp hwidth
  obtain rfl := Option.some.inj hpure
  have hheader : "[region]\n" = Toml.headerLine "region" := rfl
  simp only [hheader, String.toList_append, List.append_assoc]
  rw [Toml.statements?_headerLine (by decide), Toml.statements?_textLine (by decide),
    Toml.statements?_textLine (by decide), Toml.statements?_widthLine (by decide) hbound,
    Toml.statements?_textLine (by decide)]
  simp only [Option.map_map]
  rfl

/-! ## The document -/

/-- The tables that the statements build.  No key depends on the styles. -/
lemma ofStatements?_written (header : HeaderStyle) (region : RegionStyle) :
    Table.ofStatements? (header.statements ++ region.statements)
      = some [("header", .table .defined [("begin", .string header.opening),
            ("end", .string header.closing), ("width", .integer header.width.toInt64)]),
          ("region", .table .defined [("begin", .string region.opening),
            ("end", .string region.closing), ("width", .integer region.width.toInt64),
            ("branch", .string region.branch.name)])] := rfl

/-- The document of written styles. -/
lemma ofText?_written {styles : Styles} {text : String} (h : styles.toToml? = some text) :
    Table.ofText? text
      = Table.ofStatements? (styles.header.statements ++ styles.region.statements) := by
  obtain ⟨header, hheader, hrest⟩ := Option.bind_eq_some_iff.mp h
  obtain ⟨region, hregion, hpure⟩ := Option.bind_eq_some_iff.mp hrest
  obtain rfl := Option.some.inj hpure
  have hmark : Toml.withoutMark (header ++ "\n" ++ region).toList
      = (header ++ "\n" ++ region).toList := by
    obtain ⟨width, -, hpure⟩ := Option.bind_eq_some_iff.mp hheader
    obtain rfl := Option.some.inj hpure
    simp [Toml.withoutMark, Toml.byteOrderMark]
  have hstatements : Toml.statements? (header ++ "\n" ++ region).toList
      = some (styles.header.statements ++ styles.region.statements) := by
    simp only [String.toList_append, List.append_assoc]
    have hregion' := statements?_region hregion []
    rw [List.append_nil] at hregion'
    have hempty : Toml.statements? ("\n".toList ++ region.toList)
        = (Toml.statements? region.toList).map fun more => more :=
      Toml.statements?_of_line (Toml.line_empty region.toList)
    have hnil : Toml.statements? [] = some [] := by rw [Toml.statements?, if_pos rfl]
    rw [statements?_header hheader, hempty, hregion', hnil]
    simp
  rw [Table.ofText?, hmark, hstatements]
  rfl

/-! ## Reading back -/

/-- A width that fits is written as the integer with the same bits. -/
lemma writesWidth_toInt64 {width : UInt64} (hwidth : width.toNat < integerBound) :
    Schema.WritesWidth (.integer width.toInt64) width := by
  have hsigned := Toml.int64?_width hwidth
  rw [Toml.int64?] at hsigned
  split_ifs at hsigned with hrange
  obtain hwritten := Option.some.inj hsigned
  refine .integer ?_
  rw [← hwritten, Int64.toInt_ofInt_of_le (by simp)]
  simp only [Toml.integerBound] at hwidth
  omega

/-- Widths that can be written are below 2^63. -/
lemma toToml?_isSome_iff {styles : Styles} :
    styles.toToml?.isSome
      ↔ styles.header.width.toNat < integerBound ∧ styles.region.width.toNat < integerBound := by
  by_cases hheader : styles.header.width.toNat < integerBound <;>
    by_cases hregion : styles.region.width.toNat < integerBound <;>
    simp [Styles.toToml?, HeaderStyle.toToml?, RegionStyle.toToml?, Toml.widthText?, hheader,
      hregion]

/-- **A written text is read as the styles it was written for.** -/
lemma ofToml_toToml? {styles : Styles} {text : String} (h : styles.toToml? = some text) :
    Styles.ofToml text = .ok styles := by
  obtain ⟨hheader, hregion⟩ := toToml?_isSome_iff.mp (Option.isSome_of_eq_some h)
  rw [Schema.ofToml_eq_ok_iff]
  refine ⟨_, (ofText?_written h).trans (ofStatements?_written _ _), ?_, ?_, ?_⟩
  · simp [Schema.documentKeys]
  · exact ⟨_, rfl, by simp [Schema.headerKeys], .string _, .string _, writesWidth_toInt64 hheader⟩
  · exact ⟨_, rfl, by simp [Schema.regionKeys], .string _, .string _, writesWidth_toInt64 hregion,
      .name _⟩

/-- What a document says about a width can be written: its integers are below 2^63. -/
lemma width_lt_of_given {builtin width : UInt64} (hbuiltin : builtin.toNat < integerBound)
    {given : Option Value} (h : Given Schema.WritesWidth builtin given width) :
    width.toNat < integerBound := by
  cases given with
  | none => exact (show width = builtin from h) ▸ hbuiltin
  | some value =>
      obtain @⟨n, _, hn⟩ := h
      have hle := Int64.toInt_le n
      simp only [Toml.integerBound, Int64.toInt_maxValue] at hle ⊢
      omega

/-- Styles that have been read can be written. -/
lemma widths_lt_of_ofToml {text : String} {styles : Styles} (h : Styles.ofToml text = .ok styles) :
    styles.header.width.toNat < integerBound ∧ styles.region.width.toNat < integerBound := by
  obtain ⟨document, -, hdescribes⟩ := Schema.ofToml_eq_ok_iff.mp h
  constructor
  · exact width_lt_of_given (by decide) hdescribes.merges.headerWidth
  · exact width_lt_of_given (by decide) hdescribes.merges.regionWidth

/-- A text that describes styles, written anew from what it says. -/
def Styles.normalized? (text : String) : Option String :=
  match Styles.ofToml text with
  | .ok styles => styles.toToml?
  | .error _ => none

/-- **Styles survive writing and reading.**  They can be written iff both widths are at most
2^63 - 1, and the text is read as the same styles, whatever their delimiters hold.  So a text that
is accepted can be normalized, its normal form says the same, and a normal form is its own. -/
theorem styles_round_trip :
    (∀ styles : Styles, styles.toToml?.isSome
        ↔ styles.header.width.toNat ≤ 0x7FFFFFFFFFFFFFFF
          ∧ styles.region.width.toNat ≤ 0x7FFFFFFFFFFFFFFF)
      ∧ (∀ (styles : Styles) (text : String), styles.toToml? = some text →
          Styles.ofToml text = .ok styles)
      ∧ ∀ (text : String) (styles : Styles), Styles.ofToml text = .ok styles →
          ∃ normal, styles.toToml? = some normal ∧ Styles.normalized? text = some normal
            ∧ Styles.ofToml normal = .ok styles ∧ Styles.normalized? normal = some normal := by
  refine ⟨fun styles => ?_, fun styles text => ofToml_toToml?, fun text styles h => ?_⟩
  · have hbound : ∀ n : ℕ, n < integerBound ↔ n ≤ 0x7FFFFFFFFFFFFFFF := by
      intro n
      simp only [integerBound]
      omega
    rw [toToml?_isSome_iff, hbound, hbound]
  · obtain ⟨normal, hnormal⟩ :=
      Option.isSome_iff_exists.mp (toToml?_isSome_iff.mpr (widths_lt_of_ofToml h))
    have hread := ofToml_toToml? hnormal
    refine ⟨normal, hnormal, ?_, hread, ?_⟩
    · rw [Styles.normalized?, h]
      exact hnormal
    · rw [Styles.normalized?, hread]
      exact hnormal

/-- Delimiters with line feeds, control characters and quotes beside the closing ones, and the
greatest width. -/
theorem styles_round_trip_of_marks :
    Styles.ofToml ("[header]\nbegin = \"\"\"\n\n''\"\"\\\"\"\\\\\\u007F\"\"\"\nend = \"\"\n"
        ++ "width = 9223372036854775807\n\n[region]\nbegin = \"\"\"'\"\"\"\"\nend = '\\\"\"'\n"
        ++ "width = 0\nbranch = \"label\"\n")
      = .ok
        { header := { opening := "\n''\"\"\"\"\\\x7f", closing := "", width := 0x7FFFFFFFFFFFFFFF }
          region := { opening := "'\"", closing := "\\\"\"", width := 0, branch := .label } } :=
  styles_round_trip.2.1 _ _ rfl

end CommentSeparator
