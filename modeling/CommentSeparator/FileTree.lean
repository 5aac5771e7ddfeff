import CommentSeparator.StyleFile

/-!
# File trees

A tree of directories, files and symbolic links, held in memory.  It gives a `FileView`, so style
files can be searched and read in it.

A *location* is the list of names from the root to an entry.  A path is walked name by name: a dot
stays, two dots go up, and a link is followed, up to a bound on the number of links in one walk.

* `FileTree.walk` — the location that a path leads to.
* `FileTree.view` — the files as they are seen from a directory.
* `FileTree.makeDirectory`, `writeFile`, `makeLink`, `remove` — changes.  A change that fails keeps
  what it did before: directories on the way to a file stay, even if the file cannot be written.
-/

namespace CommentSeparator

/-- What is at a location. -/
inductive Node where
  | directory
  | file (octets : List UInt8)
  | link (target : Path)
  deriving DecidableEq, Repr

/-- Names from the root to an entry. -/
abbrev Location := List String

/-- The entries of a tree other than the root, which is a directory. -/
structure FileTree where
  entries : List (Location × Node) := []
  deriving DecidableEq, Repr

/-- What a walk does about the last name of its path. -/
inductive LastName where
  /-- It must be there; a link is followed. -/
  | follow
  /-- It must be there; a link is taken as it is. -/
  | keep
  /-- It need not be there; a link is followed. -/
  | allowMissing
  deriving DecidableEq, Repr

namespace FileTree

/-- What is at a location. -/
def node? (tree : FileTree) (location : Location) : Option Node :=
  if location = [] then some .directory else tree.entries.lookup location

/-- How many links a walk may follow. -/
def linkBound : Nat := 40

/-- How many octets a name may have. -/
def nameBound : Nat := 255

/-- How many octets a path may have. -/
def pathBound : Nat := 4095

/-- Walks names from a location on, with some links left to follow.  Only a directory has names in
it. -/
def walkNames (tree : FileTree) (last : LastName) (links : Nat) (here : Location)
    (names : List String) : Except ReadError Location :=
  match names with
  | [] => .ok here
  | name :: rest =>
    if tree.node? here ≠ some .directory then .error .notDirectory
    else if name = "" ∨ name = "." then tree.walkNames last links here rest
    else if name = ".." then tree.walkNames last links here.dropLast rest
    else if name.utf8ByteSize > nameBound then .error .nameTooLong
    else
      match tree.node? (here ++ [name]) with
      | none =>
        if rest = [] ∧ last = .allowMissing then .ok (here ++ [name]) else .error .notFound
      | some (.link target) =>
        if rest = [] ∧ last = .keep then .ok (here ++ [name])
        else
          match links with
          | 0 => .error .tooManyLinks
          | left + 1 =>
            let base := if target.absolute then [] else here
            tree.walkNames last left base (target.segments ++ rest)
      | some _ => tree.walkNames last links (here ++ [name]) rest
termination_by (links, names.length)

/-- Refuses a path that cannot be asked for, whatever is in the tree. -/
def checkPath (path : Path) : Except ReadError Unit :=
  if path.text.toList.contains '\x00' then .error .nulInPath
  else if path.text = "" then .error .notFound
  else if path.text.utf8ByteSize > pathBound then .error .nameTooLong
  else .ok ()

/-- Where the names of a path are walked from, seen from a directory. -/
def startOf (directory : Location) (path : Path) : Location :=
  if path.absolute then [] else directory

/-- The location that a path leads to, seen from a directory. -/
def walk (tree : FileTree) (last : LastName) (directory : Location) (path : Path) :
    Except ReadError Location := do
  checkPath path
  tree.walkNames last linkBound (startOf directory path) path.segments

/-- Is there a regular file at a path? -/
def isFile (tree : FileTree) (directory : Location) (path : Path) : Bool :=
  match tree.walk .follow directory path with
  | .ok location =>
    match tree.node? location with
    | some (.file _) => true
    | _ => false
  | .error _ => false

/-- What a file holds. -/
def read (tree : FileTree) (directory : Location) (path : Path) :
    Except ReadError (List UInt8) := do
  let location ← tree.walk .follow directory path
  match tree.node? location with
  | some (.file octets) => pure octets
  | _ => throw .isDirectory

/-- The files as they are seen from a directory. -/
def view (tree : FileTree) (directory : Location) : FileView :=
  ⟨tree.isFile directory, tree.read directory⟩

/-- The path of a location. -/
def pathOf (location : Location) : Path :=
  ⟨true, location⟩

/-- The directory that a path leads to. -/
def directory? (tree : FileTree) (directory : Location) (path : Path) :
    Except ReadError Location := do
  let location ← tree.walk .follow directory path
  if tree.node? location = some .directory then pure location else throw .notDirectory

/-! ## Changes -/

/-- Why a tree cannot be changed. -/
inductive ChangeError where
  /-- Something is there already. -/
  | occupied
  | unreachable (error : ReadError)
  deriving DecidableEq, Repr

/-- A change of a tree, which can fail halfway. -/
abbrev Change := ExceptT ChangeError (StateM FileTree)

namespace Change

/-- Carries a change out: how it ended, and the tree behind it. -/
def apply {α : Type} (change : Change α) (tree : FileTree) : Except ChangeError α × FileTree :=
  change.run.run tree

/-- Asks the tree as it is. -/
def ask {α : Type} (question : FileTree → Except ReadError α) : Change α := do
  match question (← get) with
  | .ok answer => pure answer
  | .error error => throw (.unreachable error)

end Change

/-- Puts something at a location. -/
def put (tree : FileTree) (location : Location) (node : Node) : FileTree :=
  ⟨(location, node) :: tree.entries.filter fun entry => entry.1 ≠ location⟩

/-- The names of a path without the empty ones at its end. -/
def namesOf (path : Path) : List String :=
  (path.segments.reverse.dropWhile (· = "")).reverse

/-- The location of something new: a directory that is there, and a name that is free in it.  A link
has a name, too, even if it leads nowhere. -/
def freeLocation (directory : Location) (path : Path) : Change Location := do
  let names := namesOf path
  let name := names.getLast?.getD "."
  Change.ask fun _ => checkPath path
  let above ← Change.ask fun tree =>
    tree.walkNames .follow linkBound (startOf directory path) names.dropLast
  let tree ← get
  if tree.node? above ≠ some .directory then throw (.unreachable .notDirectory)
  if name = "." ∨ name = ".." then throw .occupied
  if name.utf8ByteSize > nameBound then throw (.unreachable .nameTooLong)
  if (tree.node? (above ++ [name])).isSome then throw .occupied
  pure (above ++ [name])

/-- Makes one directory. -/
def makeOneDirectory (directory : Location) (path : Path) : Change Unit := do
  let location ← freeLocation directory path
  modify fun tree => tree.put location .directory

/-- Passes over a failure to make a directory that is there already. -/
def unlessThere (directory : Location) (path : Path) (error : ChangeError) : Change Unit := do
  match error, (← get).directory? directory path with
  | .occupied, .ok _ => pure ()
  | _, _ => throw error

/-- Makes a directory, after those above it where they are missing. -/
def makeDirectory (directory : Location) (path : Path) : Change Unit :=
  tryCatch (makeOneDirectory directory path) fun error =>
    match error, _h : path.parent? with
    | .unreachable .notFound, some above => do
      makeDirectory directory above
      tryCatch (makeOneDirectory directory path) (unlessThere directory path)
    | error, _ => unlessThere directory path error
termination_by path.segments.length
decreasing_by exact Path.length_parent?_lt _h

/-- Writes a file, in a directory that is made where it is missing. -/
def writeFile (directory : Location) (path : Path) (octets : List UInt8) : Change Unit := do
  if let some above := path.parent? then makeDirectory directory above
  let location ← Change.ask fun tree => tree.walk .allowMissing directory path
  if (← get).node? location = some .directory then throw (.unreachable .isDirectory)
  modify fun tree => tree.put location (.file octets)

/-- Makes a link, where nothing is yet. -/
def makeLink (directory : Location) (path target : Path) : Change Unit := do
  Change.ask fun _ => checkPath target
  let location ← freeLocation directory path
  if path.segments.getLast? = some "" then throw (.unreachable .notFound)
  modify fun tree => tree.put location (.link target)

/-- Removes what is at a path, with everything below it.  A directory that the path does not name,
but reaches by dots or through a link with a slash behind it, is emptied and stays. -/
def remove (directory : Location) (path : Path) : Change Unit := do
  let names := namesOf path
  let location ← Change.ask fun tree => tree.walk .keep directory path
  modify fun tree =>
    ⟨tree.entries.filter fun entry => !(location.isPrefixOf entry.1 && entry.1 ≠ location)⟩
  let named ← Change.ask fun tree =>
    tree.walkNames .keep linkBound (startOf directory path) names
  if named ≠ location then throw (.unreachable .notDirectory)
  if names.getLast? = some "." ∨ names.getLast? = some ".." then throw .occupied
  modify fun tree => ⟨tree.entries.filter fun entry => entry.1 ≠ location⟩

end FileTree

end CommentSeparator
