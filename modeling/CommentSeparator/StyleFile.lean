import CommentSeparator.Log.Event
import CommentSeparator.Style.Schema
import CommentSeparator.Text.Utf8

/-!
# Style files

Styles come from one file: the one that was named, or else the nearest `sepgen.toml` in the working
directory or above it.  Where there is none, the built-in styles are used.  A file that was chosen
but cannot be used is an error; no other file takes its place.

Files are known through a `FileView` only: which paths are files, and what is in them.

* `StyleFile.search` — looks for the nearest style file.
* `StyleFile.load` — reads the styles of a file.
* `StyleFile.resolve` — the styles in effect, and where they come from.
-/

namespace CommentSeparator

/-- Why a file or a directory cannot be read. -/
inductive ReadError where
  | notFound
  | notDirectory
  | isDirectory
  | nameTooLong
  | tooManyLinks
  /-- The path has a NUL in it. -/
  | nulInPath
  /-- The file holds octets that are not UTF-8. -/
  | notText
  /-- Any other reason, in words. -/
  | other (reason : String)
  deriving DecidableEq, Repr

/-- What a message says about what cannot be read. -/
def ReadError.message : ReadError → String
  | notFound => "No such file or directory (os error 2)"
  | notDirectory => "Not a directory (os error 20)"
  | isDirectory => "Is a directory (os error 21)"
  | nameTooLong => "File name too long (os error 36)"
  | tooManyLinks => "Too many levels of symbolic links (os error 40)"
  | nulInPath => "file name contained an unexpected NUL byte"
  | notText => Text.notTextMessage
  | other reason => reason

/-- What can be asked about files: is there a regular file at a path, and what does it hold? -/
structure FileView where
  isFile : Path → Bool
  read : Path → Except ReadError (List UInt8)

/-- Why styles cannot be loaded from a file. -/
inductive LoadError where
  | unreadable (path : Path) (error : ReadError)
  | invalid (path : Path) (error : StyleError)

/-- What the TOML library says of the text in a file, if that does not describe styles. -/
abbrev TomlWords := Path → StyleError → Option String

/-- No words but those that are known without the library. -/
def TomlWords.plain : TomlWords :=
  fun _ => StyleError.detail?

namespace LoadError

/-- What was being done with the style file, and the cause. -/
def chain (words : TomlWords) : LoadError → List String
  | unreadable path error => ["failed to read style file: " ++ path.text, error.message]
  | invalid path error => ("invalid style file: " ++ path.text) :: error.chain (words path)

/-- What a message says about a file without usable styles. -/
def message (error : LoadError) (words : TomlWords := .plain) : String :=
  ": ".intercalate (error.chain words)

theorem message_unreadable (words : TomlWords) (path : Path) (error : ReadError) :
    (unreadable path error).message words
      = "failed to read style file: " ++ path.text ++ ": " ++ error.message := by
  rw [message, chain, String.intercalate_cons_cons, String.intercalate_singleton]

theorem message_invalid (words : TomlWords) (path : Path) (error : StyleError) :
    (invalid path error).message words
      = "invalid style file: " ++ path.text ++ ": " ++ error.message (words path) := by
  have hchain : error.chain (words path) ≠ [] := List.cons_ne_nil _ _
  rw [message, chain, String.intercalate_cons_of_ne_nil hchain, StyleError.message]

end LoadError

/-- Where styles come from. -/
inductive Source where
  | builtin
  | file (path : Path)
  deriving DecidableEq, Repr

/-- A source in words. -/
def Source.text : Source → String
  | .builtin => "built-in defaults"
  | .file path => path.text

/-- Styles and where they come from. -/
structure Resolved where
  styles : Styles
  source : Source
  deriving DecidableEq, Repr

namespace StyleFile

/-- The name that is looked for. -/
def name : Path := ⟨false, ["sepgen.toml"]⟩

/-- The path of the style file of a directory. -/
def inDirectory (directory : Path) : Path :=
  directory.join name

/-- The nearest style file, from a directory upwards. -/
def search (files : FileView) (directory : Path) : Option Path :=
  if files.isFile (inDirectory directory) then some (inDirectory directory)
  else
    match _h : directory.parent? with
    | none => none
    | some parent => search files parent
termination_by directory.segments.length
decreasing_by exact Path.length_parent?_lt _h

/-- The paths at which a style file is looked for, from a directory upwards. -/
def candidates (directory : Path) : List Path :=
  directory.upwards.map inDirectory

/-- **The nearest style file** is at the first of the candidates where there is a file. -/
theorem search_eq_find? (files : FileView) (directory : Path) :
    search files directory = (candidates directory).find? files.isFile := by
  induction directory using search.induct files with
  | case1 directory hfile =>
    rw [search, if_pos hfile, candidates, Path.upwards_eq, List.map_cons, List.find?_cons, hfile]
  | case2 directory hfile hparent =>
    rw [search, if_neg hfile, candidates, Path.upwards_eq, hparent]
    simp [hfile]
  | case3 directory hfile parent hparent ih =>
    rw [search, if_neg hfile, candidates, Path.upwards_eq, hparent]
    simp only [List.map_cons, List.find?_cons, hfile, Option.elim_some]
    rw [← candidates, ← ih]

/-- Reads the text of a file. -/
def readText (files : FileView) (path : Path) : Except ReadError String := do
  let octets ← files.read path
  match Text.decode? octets with
  | some text => pure text
  | none => throw .notText

/-- Reads the styles of a file. -/
def load (files : FileView) (path : Path) : Except LoadError Styles := do
  let text ← (readText files path).mapError (.unreadable path)
  (Styles.ofToml text).mapError (.invalid path)

/-- The file that styles are taken from: the one that was named, or the nearest one. -/
def choose (files : FileView) (directory : Path) (config : Option Path) : Option Path :=
  match config with
  | some path => some path
  | none => search files directory

/-- The styles in effect.  Where they come from is reported. -/
def resolve (files : FileView) (directory : Path) (config : Option Path) :
    Logged (Except LoadError Resolved) :=
  match choose files directory config with
  | some path =>
    match load files path with
    | .ok styles => do
      Logged.report (.styleFileLoaded path)
      pure (.ok ⟨styles, .file path⟩)
    | .error error => pure (.error error)
  | none => do
    Logged.report .builtinStylesUsed
    pure (.ok ⟨{}, .builtin⟩)

end StyleFile

end CommentSeparator
