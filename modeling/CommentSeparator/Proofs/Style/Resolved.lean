import CommentSeparator.Proofs.Style.RoundTrip
import CommentSeparator.StyleFile

/-!
# Styles that are found

Styles are found in the file that is chosen, and nowhere else, or they are the built-in ones.
Whichever it is, they can be written (`exists_toml_of_resolve`): a document cannot hold a width that
does not fit into one, and the built-in widths do.  A file of text that describes styles gives them
to whoever names it (`resolve_named`).
-/

namespace CommentSeparator.StyleFile

open Text (encode)

variable {files : FileView} {directory path : Path} {config : Option Path} {resolved : Resolved}

lemma readText_eq_ok_iff {text : String} :
    readText files path = .ok text ↔ files.read path = .ok (encode text) := by
  rw [readText, Except.bind_eq_ok]
  constructor
  · rintro ⟨octets, hread, htext⟩
    cases hdecode : Text.decode? octets with
    | none => simp [hdecode, throw, throwThe, MonadExceptOf.throw] at htext
    | some found =>
        rw [hdecode] at htext
        obtain rfl := Except.ok.inj htext
        rw [hread, Text.decode?_eq_some_iff.mp hdecode]
  · intro hread
    exact ⟨encode text, hread, by rw [Text.decode?_encode]; rfl⟩

/-- A file gives styles iff it holds a text that describes them. -/
lemma load_eq_ok_iff {styles : Styles} :
    load files path = .ok styles
      ↔ ∃ text, files.read path = .ok (encode text) ∧ Styles.ofToml text = .ok styles := by
  rw [load, Except.bind_eq_ok]
  simp only [Except.mapError_eq_ok, readText_eq_ok_iff]

/-- The styles in effect are the built-in ones, or those of the file that is chosen. -/
lemma resolve_eq_ok_iff :
    (resolve files directory config).value = .ok resolved
      ↔ choose files directory config = none ∧ resolved = ⟨{}, .builtin⟩
        ∨ ∃ path, choose files directory config = some path
            ∧ load files path = .ok resolved.styles ∧ resolved.source = .file path := by
  obtain ⟨styles, source⟩ := resolved
  unfold resolve
  cases hchoose : choose files directory config with
  | none => simp [eq_comm]
  | some path =>
      cases hload : load files path with
      | error error => simp [hload]
      | ok found => simp [hload, eq_comm]

/-- A file that is named is the one that styles are taken from. -/
lemma resolve_named {styles : Styles} (hload : load files path = .ok styles) :
    (resolve files directory (some path)).value = .ok ⟨styles, .file path⟩ :=
  resolve_eq_ok_iff.mpr (.inr ⟨path, rfl, hload, rfl⟩)

/-- Styles that were found can be written. -/
lemma exists_toml_of_resolve (h : (resolve files directory config).value = .ok resolved) :
    ∃ toml, resolved.styles.toToml? = some toml := by
  rw [← Option.isSome_iff_exists, toToml?_isSome_iff]
  rcases resolve_eq_ok_iff.mp h with ⟨-, rfl⟩ | ⟨path, -, hload, -⟩
  · decide
  · obtain ⟨text, -, hstyles⟩ := load_eq_ok_iff.mp hload
    exact widths_lt_of_ofToml hstyles

end CommentSeparator.StyleFile
