import CommentSeparator.Proofs.Style.Resolved

/-!
# The file that is chosen

One file is chosen before any file is read: the one that is named, or else the first candidate where
there is a file.  `Chosen` says which it is, and it is always exactly one, or none
(`choose_eq_iff`).  Everything else follows from this choice, **and nothing takes it back**: a
chosen file that gives no styles is an error about this file (`Spoiled`), even where another file,
or the built-in styles, could have been used.

So two views of files have the same styles in effect if they answer the same to the few questions
that are asked (`resolve_of_seesAlike`).  These are whether there is a file at a candidate that is
`Reached`, with no file at any nearer one, and what the chosen file holds.
-/

namespace CommentSeparator

/-- A few files, and nothing else around. -/
def FileView.ofFiles (files : List (Path × List UInt8)) : FileView where
  isFile path := (files.lookup path).isSome
  read path := (files.lookup path).elim (.error .notFound) .ok

namespace StyleFile

open Text (encode decode?)

variable {files other : FileView} {directory path : Path} {config : Option Path}

/-! ## The choice -/

/-- A candidate is reached if there is no file at any nearer one. -/
def Reached (files : FileView) (directory path : Path) : Prop :=
  ∃ nearer farther, candidates directory = nearer ++ path :: farther
    ∧ ∀ earlier ∈ nearer, files.isFile earlier = false

/-- The file that styles are to be taken from, if there is one: the one that is named, else the
nearest one, the candidate that is reached and is a file. -/
inductive Chosen (files : FileView) (directory : Path) : Option Path → Option Path → Prop where
  | named (path : Path) : Chosen files directory (some path) (some path)
  | nearest {path : Path} (reached : Reached files directory path)
      (isFile : files.isFile path = true) : Chosen files directory none (some path)
  | builtin (missing : ∀ path ∈ candidates directory, files.isFile path = false) :
      Chosen files directory none none

lemma search_eq_some_iff :
    search files directory = some path
      ↔ Reached files directory path ∧ files.isFile path = true := by
  rw [search_eq_find?, List.find?_eq_some_iff_append, and_comm]
  simp [Reached]

lemma search_eq_none_iff :
    search files directory = none ↔ ∀ path ∈ candidates directory, files.isFile path = false := by
  rw [search_eq_find?, List.find?_eq_none]
  simp

/-- The choice is made in one way. -/
lemma choose_eq_iff {chosen : Option Path} :
    choose files directory config = chosen ↔ Chosen files directory config chosen := by
  cases config with
  | some path =>
      constructor
      · rintro rfl
        exact .named path
      · rintro ⟨⟩
        rfl
  | none =>
      cases chosen with
      | some path =>
          constructor
          · intro h
            obtain ⟨hreached, hfile⟩ := search_eq_some_iff.mp h
            exact .nearest hreached hfile
          · rintro (_ | ⟨hreached, hfile⟩)
            exact search_eq_some_iff.mpr ⟨hreached, hfile⟩
      | none =>
          constructor
          · exact fun h => .builtin (search_eq_none_iff.mp h)
          · rintro (_ | _ | hmissing)
            exact search_eq_none_iff.mpr hmissing

/-! ## What the chosen file gives -/

/-- Why a file gives no styles. -/
inductive Spoiled (files : FileView) (path : Path) : LoadError → Prop where
  /-- It cannot be read. -/
  | unread {reason : ReadError} (read : files.read path = .error reason) :
      Spoiled files path (.unreadable path reason)
  /-- What it holds is no text. -/
  | notText {octets : List UInt8} (read : files.read path = .ok octets)
      (decoded : decode? octets = none) : Spoiled files path (.unreadable path .notText)
  /-- Its text describes no styles. -/
  | invalid {text : String} {reason : StyleError} (read : files.read path = .ok (encode text))
      (misfit : Styles.ofToml text = .error reason) : Spoiled files path (.invalid path reason)

lemma readText_eq_error_iff {reason : ReadError} :
    readText files path = .error reason
      ↔ files.read path = .error reason
        ∨ ∃ octets, files.read path = .ok octets ∧ decode? octets = none ∧ reason = .notText := by
  unfold readText
  cases files.read path with
  | error found => simp [bind, Except.bind]
  | ok octets =>
      cases hdecode : decode? octets with
      | none =>
          simp [bind, Except.bind, hdecode, throw, throwThe, MonadExceptOf.throw, eq_comm]
      | some text => simp [bind, Except.bind, hdecode, pure, Except.pure]

/-- **A file that gives no styles is an error**, and the error is about this file. -/
lemma load_eq_error_iff {error : LoadError} :
    load files path = .error error ↔ Spoiled files path error := by
  have hload : load files path = (readText files path).mapError (.unreadable path) >>= fun text =>
      (Styles.ofToml text).mapError (.invalid path) := rfl
  constructor
  · intro h
    rw [hload] at h
    cases hread : readText files path with
    | error reason =>
        rw [hread] at h
        obtain rfl := Except.error.inj h
        rcases readText_eq_error_iff.mp hread with hunread | ⟨octets, hoctets, hdecode, rfl⟩
        · exact .unread hunread
        · exact .notText hoctets hdecode
    | ok text =>
        cases hstyles : Styles.ofToml text with
        | ok styles => simp [hread, hstyles, Except.mapError, bind, Except.bind] at h
        | error reason =>
            simp only [hread, hstyles, Except.mapError, bind, Except.bind] at h
            obtain rfl := Except.error.inj h
            exact .invalid (readText_eq_ok_iff.mp hread) hstyles
  · intro h
    rw [hload]
    cases h with
    | unread hread => rw [readText_eq_error_iff.mpr (.inl hread)]; rfl
    | notText hread hdecode =>
        rw [readText_eq_error_iff.mpr (.inr ⟨_, hread, hdecode, rfl⟩)]; rfl
    | invalid hread hstyles =>
        rw [readText_eq_ok_iff.mpr hread]
        simp only [Except.mapError, bind, Except.bind, hstyles]

/-- The message of an error about a file names the file, and says whether it was its text that
could not be had, or its styles. -/
lemma Spoiled.message {error : LoadError} (h : Spoiled files path error) :
    ((∀ text, files.read path ≠ .ok (encode text)) ∧ ∃ reason : ReadError, ∀ words,
        error.message words
          = "failed to read style file: " ++ path.text ++ ": " ++ reason.message)
      ∨ ∃ text reason, files.read path = .ok (encode text) ∧ Styles.ofToml text = .error reason
        ∧ ∀ words, error.message words
          = "invalid style file: " ++ path.text ++ ": " ++ reason.message (words path) := by
  cases h with
  | unread hread =>
      exact .inl ⟨by simp [hread], _, fun words => LoadError.message_unreadable words path _⟩
  | notText hread hdecode =>
      refine .inl ⟨fun text htext => ?_, _, fun words => LoadError.message_unreadable words path _⟩
      obtain rfl := Except.ok.inj (hread.symm.trans htext)
      simp at hdecode
  | invalid hread hstyles =>
      exact .inr ⟨_, _, hread, hstyles, fun words => LoadError.message_invalid words path _⟩

/-- With a file chosen, the styles in effect are those of this file. -/
lemma resolve_of_chosen (h : Chosen files directory config (some path)) :
    (resolve files directory config).value
      = (load files path).map fun styles => ⟨styles, .file path⟩ := by
  rw [resolve, choose_eq_iff.mpr h]
  cases hload : load files path <;> simp [hload, Except.map]

/-- With no file chosen, the built-in styles are in effect. -/
lemma resolve_of_builtin (h : Chosen files directory config none) :
    (resolve files directory config).value = .ok ⟨{}, .builtin⟩ := by
  rw [resolve, choose_eq_iff.mpr h]
  rfl

/-- There are no styles in effect iff a file is chosen that gives none. -/
lemma resolve_eq_error_iff {error : LoadError} :
    (resolve files directory config).value = .error error
      ↔ ∃ path, Chosen files directory config (some path) ∧ Spoiled files path error := by
  constructor
  · intro h
    cases hchoose : choose files directory config with
    | none => simp [resolve_of_builtin (choose_eq_iff.mp hchoose)] at h
    | some path =>
        have hchosen := choose_eq_iff.mp hchoose
        refine ⟨path, hchosen, load_eq_error_iff.mp ?_⟩
        rw [resolve_of_chosen hchosen] at h
        cases hload : load files path with
        | ok styles => simp [hload, Except.map] at h
        | error found =>
            rw [hload] at h
            obtain rfl := Except.error.inj h
            rfl
  · rintro ⟨path, hchosen, hspoiled⟩
    rw [resolve_of_chosen hchosen, load_eq_error_iff.mpr hspoiled]
    rfl

/-! ## What the choice depends on -/

/-- Two views of files answer the same to what is asked: is there a file at a candidate that is
reached, and what does the chosen file hold? -/
structure SeesAlike (files other : FileView) (directory : Path) (config : Option Path) : Prop where
  isFile : config = none → ∀ path, Reached files directory path →
    other.isFile path = files.isFile path
  read : ∀ path, Chosen files directory config (some path) → other.read path = files.read path

/-- As long as no file is found, every candidate is reached. -/
lemma reached_of_missing {nearer farther : List Path}
    (hcandidates : candidates directory = nearer ++ farther)
    (hmissing : ∀ earlier ∈ nearer, files.isFile earlier = false) (hpath : path ∈ nearer) :
    Reached files directory path := by
  obtain ⟨before, behind, rfl⟩ := List.append_of_mem hpath
  refine ⟨before, behind ++ farther, by rw [hcandidates]; simp, fun earlier hearlier => ?_⟩
  exact hmissing earlier (List.mem_append_left _ hearlier)

/-- The search depends on what is asked at the candidates that it reaches, and on nothing else. -/
lemma search_congr
    (h : ∀ path, Reached files directory path → other.isFile path = files.isFile path) :
    search other directory = search files directory := by
  cases hfound : search files directory with
  | some path =>
      obtain ⟨hreached, hfile⟩ := search_eq_some_iff.mp hfound
      have hother := h path hreached
      obtain ⟨nearer, farther, hcandidates, hmissing⟩ := hreached
      refine search_eq_some_iff.mpr
        ⟨⟨nearer, farther, hcandidates, fun earlier hearlier => ?_⟩, hother.trans hfile⟩
      rw [h earlier (reached_of_missing hcandidates hmissing hearlier)]
      exact hmissing earlier hearlier
  | none =>
      have hmissing := search_eq_none_iff.mp hfound
      refine search_eq_none_iff.mpr fun path hpath => ?_
      rw [h path (reached_of_missing (List.append_nil _).symm hmissing hpath)]
      exact hmissing path hpath

/-- The same file is chosen by both views. -/
lemma SeesAlike.chosen (h : SeesAlike files other directory config) {chosen : Option Path}
    (hchosen : Chosen files directory config chosen) : Chosen other directory config chosen := by
  rw [← choose_eq_iff] at hchosen ⊢
  cases config with
  | some path => exact hchosen
  | none => exact (search_congr (h.isFile rfl)).trans hchosen

/-- What a file gives depends on what it holds. -/
lemma load_congr (h : other.read path = files.read path) : load other path = load files path := by
  rw [load, load, readText, readText, h]

/-- **Two views that answer the same to what is asked** have the same styles in effect, from the
same source, and report the same. -/
theorem resolve_of_seesAlike (h : SeesAlike files other directory config) :
    resolve other directory config = resolve files directory config := by
  cases hchoose : choose files directory config with
  | none =>
      have hother := choose_eq_iff.mpr (h.chosen (choose_eq_iff.mp hchoose))
      rw [resolve, resolve, hchoose, hother]
  | some path =>
      have hchosen := choose_eq_iff.mp hchoose
      have hother := choose_eq_iff.mpr (h.chosen hchosen)
      have hload : load other path = load files path := load_congr (h.read path hchosen)
      simp only [resolve, hchoose, hother, hload]

/-! ## One file and nothing else -/

/-- **Styles come from the file that is chosen and depend on nothing else.**

Exactly one choice is right: the named file, or else the nearest one, or none.  With a file chosen,
the styles in effect are those of this file, and it is their source; with none, they are the
built-in ones.  So styles that come from a file are what its text describes.  An error is about the
chosen file, and its message names it and says whether it was its text that could not be had, or its
styles, whatever the words of the TOML library are.  Views of files that answer the same to what is
asked give the same. -/
theorem resolve_depends_on_chosen (files : FileView) (directory : Path) (config : Option Path) :
    let effect := (resolve files directory config).value
    (∃! chosen, Chosen files directory config chosen)
      ∧ (∀ path, Chosen files directory config (some path) →
          effect = (load files path).map fun styles => ⟨styles, .file path⟩)
      ∧ (Chosen files directory config none → effect = .ok ⟨{}, .builtin⟩)
      ∧ (∀ path styles, effect = .ok ⟨styles, .file path⟩ →
          Chosen files directory config (some path)
            ∧ ∃ text, files.read path = .ok (encode text) ∧ Styles.ofToml text = .ok styles)
      ∧ (∀ error, effect = .error error
          ↔ ∃ path, Chosen files directory config (some path) ∧ Spoiled files path error)
      ∧ (∀ path error, Spoiled files path error →
          ((∀ text, files.read path ≠ .ok (encode text)) ∧ ∃ reason : ReadError, ∀ words,
              error.message words
                = "failed to read style file: " ++ path.text ++ ": " ++ reason.message)
            ∨ ∃ text reason, files.read path = .ok (encode text)
              ∧ Styles.ofToml text = .error reason
              ∧ ∀ words, error.message words
                = "invalid style file: " ++ path.text ++ ": " ++ reason.message (words path))
      ∧ ∀ other, SeesAlike files other directory config →
          resolve other directory config = resolve files directory config := by
  intro effect
  refine ⟨⟨choose files directory config, choose_eq_iff.mp rfl, fun _ h => ?_⟩,
    fun _ => resolve_of_chosen, resolve_of_builtin, fun path styles h => ?_,
    fun _ => resolve_eq_error_iff, fun _ _ => Spoiled.message, fun _ => resolve_of_seesAlike⟩
  · exact (choose_eq_iff.mpr h).symm
  · rcases resolve_eq_ok_iff.mp h with ⟨-, hbuiltin⟩ | ⟨found, hchoose, hload, hsource⟩
    · simp at hbuiltin
    · obtain rfl := Source.file.inj hsource
      exact ⟨choose_eq_iff.mp hchoose, load_eq_ok_iff.mp hload⟩

/-- The nearest file is no text, so there are no styles, although there are styles farther up; what
is there makes no difference. -/
theorem resolve_depends_on_chosen_of_no_text :
    let nearest : Path := ⟨true, ["a", "sepgen.toml"]⟩
    let farther : Path := ⟨true, ["sepgen.toml"]⟩
    let files := FileView.ofFiles [(nearest, [255]), (farther, encode "")]
    Chosen files ⟨true, ["a", "b"]⟩ none (some nearest)
      ∧ Spoiled files nearest (.unreadable nearest .notText)
      ∧ (resolve files ⟨true, ["a", "b"]⟩ none).value = .error (.unreadable nearest .notText)
      ∧ SeesAlike files (.ofFiles [(nearest, [255])]) ⟨true, ["a", "b"]⟩ none
      ∧ (resolve (.ofFiles [(nearest, [255])]) ⟨true, ["a", "b"]⟩ none).value
        = .error (.unreadable nearest .notText) := by
  intro nearest farther files
  have hcandidates : candidates ⟨true, ["a", "b"]⟩
      = [⟨true, ["a", "b", "sepgen.toml"]⟩, nearest, farther] := by
    simp [candidates, Path.upwards_eq, Path.parent?, Path.dropIdle, inDirectory, Path.join, name,
      nearest, farther]
  have hchosen : Chosen files ⟨true, ["a", "b"]⟩ none (some nearest) :=
    .nearest ⟨[_], [farther], hcandidates, by decide⟩ (by decide)
  have hspoiled : Spoiled files nearest (.unreadable nearest .notText) := .notText rfl (by decide)
  obtain ⟨⟨_, -, hunique⟩, -, -, -, herror, -, hother⟩ :=
    resolve_depends_on_chosen files ⟨true, ["a", "b"]⟩ none
  have heffect := (herror _).mpr ⟨nearest, hchosen, hspoiled⟩
  have halike : SeesAlike files (.ofFiles [(nearest, [255])]) ⟨true, ["a", "b"]⟩ none := by
    constructor
    · rintro - path ⟨nearer, behind, hsplit, hmissing⟩
      rw [hcandidates] at hsplit
      -- nothing behind the nearest file is reached
      rcases nearer with _ | ⟨first, _ | ⟨second, more⟩⟩
      · obtain ⟨rfl, -⟩ := List.cons.inj hsplit
        decide
      · obtain ⟨-, rfl, -⟩ := hsplit
        decide
      · simp only [List.cons_append, List.cons.injEq] at hsplit
        obtain ⟨-, rfl, -⟩ := hsplit
        exact absurd (hmissing nearest (by simp)) (by decide)
    · intro path hpath
      obtain rfl := Option.some.inj ((hunique _ hpath).trans (hunique _ hchosen).symm)
      rfl
  exact ⟨hchosen, hspoiled, heffect, halike, hother _ halike ▸ heffect⟩

end StyleFile

end CommentSeparator
