import CommentSeparator.Proofs.Program.Runs
import CommentSeparator.Proofs.Style.Resolved
import CommentSeparator.Proofs.Toml.Comment

/-!
# The styles as they are written

The styles in effect are written as a document with a comment in front, which says where they come
from.  This never fails (`prints_styles`).

The document by itself always says what the styles are.  The comment is another matter, because the
path of a file is put into it as it is.  **As long as the path is a comment**, what is written is
read as the styles that it was written for, and can be saved and named as a style file.  Where the
path has a line feed in it, what follows there is taken for the document's own; and where a control
character breaks the comment off before, nothing of what is written can be read (`styles_output`).
-/

namespace CommentSeparator.Program

open Text (encode)
open Toml (IsComment byteOrderMark)

/-- What is written for styles: where they come from, and the document that says what they are. -/
def stylesText (source : Source) (toml : String) : String :=
  "# source: " ++ source.text ++ "\n" ++ toml

/-- The styles in effect are written, and all is well. -/
lemma prints_styles {around : Surroundings} {config : Option String} {resolved : Resolved}
    (hconfig : config ≠ some "") (verbose : ℕ) (hfinds : Finds around config resolved)
    {toml : String} (htoml : resolved.styles.toToml? = some toml) :
    Prints around (globalWords config verbose ++ ["styles"])
      (encode (stylesText resolved.source toml)) := by
  refine prints_text hfinds (Invocation.ofWords_styles hconfig verbose) ?_
  simp only [Command.job, Job.styles, htoml, Logged.value_pure, stylesText]

/-- The lines of a path behind the first one are lines in front of the document. -/
lemma stylesText_of_lines {source : Source} {line more : String}
    (hsource : source.text = line ++ "\n" ++ more) (toml : String) :
    stylesText source toml = "# source: " ++ line ++ "\n" ++ (more ++ "\n" ++ toml) := by
  simp only [stylesText, hsource, String.append_assoc]

/-! ## Reading what was written -/

/-- The document of styles begins with a bracket. -/
lemma head_toToml? {styles : Styles} {toml : String} (htoml : styles.toToml? = some toml) :
    toml.toList.head? = some '[' := by
  obtain ⟨header, hheader, hrest⟩ := Option.bind_eq_some_iff.mp htoml
  obtain ⟨region, -, hpure⟩ := Option.bind_eq_some_iff.mp hrest
  obtain rfl := Option.some.inj hpure
  obtain ⟨width, -, hpure⟩ := Option.bind_eq_some_iff.mp hheader
  obtain rfl := Option.some.inj hpure
  simp

/-- A comment that names a source, as it is written in front of a document. -/
lemma sourceLine_eq (line document : String) :
    "# source: " ++ line ++ "\n" ++ document
      = "#" ++ (" source: " ++ line) ++ "\n" ++ document := by
  apply String.toList_injective
  simp

lemma isComment_source {line : String} : IsComment (" source: " ++ line) ↔ IsComment line :=
  Toml.isComment_append (by simp [Toml.isPlain]) line

/-- What names a source is passed over, if it is a comment. -/
lemma ofToml_of_isComment {line document : String} (hcomment : IsComment line)
    (hmark : document.toList.head? ≠ some byteOrderMark) :
    Styles.ofToml ("# source: " ++ line ++ "\n" ++ document) = Styles.ofToml document := by
  rw [Styles.ofToml, sourceLine_eq, Toml.ofText?_comment (isComment_source.mpr hcomment) hmark,
    Styles.ofToml]

/-- What names a source spoils the document, if it is no comment. -/
lemma ofToml_of_not_isComment {line : String} (hline : '\n' ∉ line.toList)
    (hno : ¬ IsComment line) (document : String) :
    Styles.ofToml ("# source: " ++ line ++ "\n" ++ document) = .error .notToml := by
  have hline' : '\n' ∉ (" source: " ++ line).toList := by simp [hline]
  rw [Styles.ofToml, sourceLine_eq, Toml.ofText?_noComment hline' (isComment_source.not.mpr hno)]

/-- **The styles are always written, and what is written is a style file for them unless the path
that it names is no comment.**

The command succeeds and writes the styles with their source in front.  If the source is the
built-in one, or a path that is a comment, then all of this is read as the same styles, and whoever
saves it and names the file has the same styles in effect.  Otherwise the first line of the path
decides.  If that is no comment, what is written is not TOML; and if it is, the other lines are read
as lines of the document. -/
theorem styles_output {around : Surroundings} {config : Option String} {resolved : Resolved}
    (hconfig : config ≠ some "") (verbose : ℕ) (hfinds : Finds around config resolved) :
    ∃ toml, resolved.styles.toToml? = some toml
      ∧ Prints around (globalWords config verbose ++ ["styles"])
          (encode (stylesText resolved.source toml))
      ∧ ((∀ path, resolved.source = .file path → IsComment path.text) →
          Styles.ofToml (stylesText resolved.source toml) = .ok resolved.styles
            ∧ ∀ (later : Surroundings) (saved : String),
                later.files.read (.ofText saved) = .ok (encode (stylesText resolved.source toml)) →
                Finds later (some saved) ⟨resolved.styles, .file (.ofText saved)⟩)
      ∧ (∀ line, '\n' ∉ line.toList → ¬ IsComment line →
          (resolved.source.text = line ∨ ∃ more, resolved.source.text = line ++ "\n" ++ more) →
          Styles.ofToml (stylesText resolved.source toml) = .error .notToml)
      ∧ ∀ line more, resolved.source.text = line ++ "\n" ++ more → IsComment line →
          more.toList.head? ≠ some byteOrderMark →
          Styles.ofToml (stylesText resolved.source toml)
            = Styles.ofToml (more ++ "\n" ++ toml) := by
  obtain ⟨toml, htoml⟩ := exists_toml_of_finds hfinds
  have hmark : toml.toList.head? ≠ some byteOrderMark := by
    rw [head_toToml? htoml]
    decide
  refine ⟨toml, htoml, prints_styles hconfig verbose hfinds htoml, fun hpath => ?_, ?_, ?_⟩
  · have hcomment : IsComment resolved.source.text := by
      cases hsource : resolved.source with
      | builtin => decide
      | file path => exact hpath path hsource
    have hstyles : Styles.ofToml (stylesText resolved.source toml) = .ok resolved.styles :=
      (ofToml_of_isComment hcomment hmark).trans (ofToml_toToml? htoml)
    refine ⟨hstyles, fun later saved hread => ?_⟩
    exact finds_of_read hread hstyles
  · rintro line hline hno (hsource | ⟨more, hsource⟩)
    · rw [stylesText, hsource]
      exact ofToml_of_not_isComment hline hno toml
    · rw [stylesText_of_lines hsource]
      exact ofToml_of_not_isComment hline hno _
  · intro line more hsource hcomment hmore
    rw [stylesText_of_lines hsource]
    refine ofToml_of_isComment hcomment ?_
    cases hcons : more.toList with
    | nil => simp [hcons, byteOrderMark]
    | cons c rest => simpa [hcons] using hmore

/-- Styles of a file in a directory are written, and read back. -/
theorem styles_output_of_file :
    ∃ toml, ({ header := { width := 80 } } : Styles).toToml? = some toml
      ∧ Finds (.withFile "lines/sepgen.toml" toml) (some "lines/sepgen.toml")
          ⟨{ header := { width := 80 } }, .file (.ofText "lines/sepgen.toml")⟩
      ∧ Prints (.withFile "lines/sepgen.toml" toml) ["--config=lines/sepgen.toml", "styles"]
          (encode ("# source: lines/sepgen.toml\n" ++ toml))
      ∧ Styles.ofToml ("# source: lines/sepgen.toml\n" ++ toml)
          = .ok { header := { width := 80 } } := by
  obtain ⟨toml, htoml⟩ : ∃ toml, ({ header := { width := 80 } } : Styles).toToml? = some toml :=
    ⟨_, rfl⟩
  have hfinds := finds_withFile "lines/sepgen.toml" (ofToml_toToml? htoml)
  obtain ⟨written, hwritten, hprints, hread, -⟩ := styles_output (by decide) 0 hfinds
  obtain rfl : written = toml := Option.some.inj (hwritten.symm.trans htoml)
  have hcomment : IsComment (Path.ofText "lines/sepgen.toml").text := by decide
  refine ⟨written, htoml, hfinds, hprints, (hread fun path hpath => ?_).1⟩
  exact Source.file.inj hpath ▸ hcomment

/-- An escape character in the path of the file: what is written cannot be read. -/
theorem styles_output_of_escape :
    ∃ toml, ({} : Styles).toToml? = some toml
      ∧ Finds (.withFile "a\x1bb" toml) (some "a\x1bb") ⟨{}, .file (.ofText "a\x1bb")⟩
      ∧ Prints (.withFile "a\x1bb" toml) ["--config=a\x1bb", "styles"]
          (encode ("# source: a\x1bb\n" ++ toml))
      ∧ Styles.ofToml ("# source: a\x1bb\n" ++ toml) = .error .notToml := by
  obtain ⟨toml, htoml⟩ : ∃ toml, ({} : Styles).toToml? = some toml := ⟨_, rfl⟩
  have hfinds := finds_withFile "a\x1bb" (ofToml_toToml? htoml)
  refine ⟨toml, htoml, hfinds, prints_styles (by decide) 0 hfinds htoml, ?_⟩
  have hno : ¬ IsComment "a\x1bb" := by decide
  exact ofToml_of_not_isComment (by decide) hno toml

end CommentSeparator.Program
