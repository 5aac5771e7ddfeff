/-!
# Paths in their written form

A path is kept as it was written: nothing is normalized, and `text_ofText` says that writing it
out gives back what was read.

* `Path.join` — a path taken relative to another one.
* `Path.parent?` — the lexical parent, which looks at the written form alone and never at a file
  system.  A segment is *idle* when it names no step: an empty one, between two separators or after
  the last, or a dot that does not begin a relative path.  The parent loses the last segment that is
  not idle, and the idle segments around it.
* `Path.upwards` — a path and its parents, up to the root or the empty path.
-/

namespace CommentSeparator

/-- A written path: whether it begins at the root, and what stands between the separators. -/
structure Path where
  absolute : Bool
  segments : List String
  deriving DecidableEq, Repr, Inhabited

namespace Path

/-- The pieces of a text between slashes; there is always at least one. -/
def splitSlash : List Char → List (List Char)
  | [] => [[]]
  | c :: rest =>
    if c = '/' then [] :: splitSlash rest
    else
      match splitSlash rest with
      | [] => [[c]]
      | piece :: pieces => (c :: piece) :: pieces

/-- The pieces with a slash between each two. -/
def joinSlash : List (List Char) → List Char
  | [] => []
  | [piece] => piece
  | piece :: next :: pieces => piece ++ '/' :: joinSlash (next :: pieces)

theorem splitSlash_ne_nil (text : List Char) : splitSlash text ≠ [] := by
  cases text with
  | nil => simp [splitSlash]
  | cons c rest =>
    rw [splitSlash]
    split
    · simp
    · split <;> simp

theorem joinSlash_splitSlash (text : List Char) : joinSlash (splitSlash text) = text := by
  induction text with
  | nil => rfl
  | cons c rest ih =>
    rw [splitSlash]
    split
    · rename_i hc
      subst hc
      cases hs : splitSlash rest with
      | nil => exact absurd hs (splitSlash_ne_nil rest)
      | cons piece pieces =>
        rw [hs] at ih
        simp [joinSlash, ih]
    · cases hs : splitSlash rest with
      | nil => exact absurd hs (splitSlash_ne_nil rest)
      | cons piece pieces =>
        rw [hs] at ih
        cases pieces with
        | nil => simpa [joinSlash] using ih
        | cons next pieces => simpa [joinSlash] using ih

/-- What stands between the separators of a text that does not begin with one. -/
def segmentsOf (text : List Char) : List String :=
  if text = [] then [] else (splitSlash text).map String.ofList

/-- Reads a path: a slash in front makes it absolute. -/
def ofText (text : String) : Path :=
  match text.toList with
  | '/' :: rest => ⟨true, segmentsOf rest⟩
  | rest => ⟨false, segmentsOf rest⟩

/-- Writes a path out. -/
def text (path : Path) : String :=
  String.ofList
    ((if path.absolute then ['/'] else []) ++ joinSlash (path.segments.map String.toList))

theorem joinSlash_segmentsOf (text : List Char) :
    joinSlash ((segmentsOf text).map String.toList) = text := by
  unfold segmentsOf
  split
  · rename_i h
    simp [h, joinSlash]
  · simp [joinSlash_splitSlash, Function.comp_def]

/-- **The written form is kept**: a path is written out as it was read. -/
theorem text_ofText (written : String) : (ofText written).text = written := by
  unfold ofText
  split
  · rename_i rest h
    simp [text, joinSlash_segmentsOf, ← h]
  · simp [text, joinSlash_segmentsOf]

/-- A path below another one.  An absolute path stands for itself; a separator is put in between
where there is none. -/
def join (base path : Path) : Path :=
  if path.absolute then path
  else if base.segments = [] then ⟨base.absolute, path.segments⟩
  else
    let kept := if base.segments.getLast? = some "" then base.segments.dropLast else base.segments
    ⟨base.absolute, kept ++ if path.segments = [] then [""] else path.segments⟩

/-- The segments, latest first, without the idle ones at the end.  A dot in front of a relative path
is not idle. -/
def dropIdle (absolute : Bool) : List String → List String
  | [] => []
  | segment :: earlier =>
    if segment = "" ∨ (segment = "." ∧ (absolute ∨ earlier ≠ [])) then dropIdle absolute earlier
    else segment :: earlier

/-- The lexical parent; the root and the empty path have none. -/
def parent? (path : Path) : Option Path :=
  match dropIdle path.absolute path.segments.reverse with
  | [] => none
  | _ :: earlier => some ⟨path.absolute, (dropIdle path.absolute earlier).reverse⟩

theorem length_dropIdle_le (absolute : Bool) (segments : List String) :
    (dropIdle absolute segments).length ≤ segments.length := by
  induction segments with
  | nil => exact Nat.le_refl _
  | cons segment earlier ih =>
    rw [dropIdle]
    split
    · exact Nat.le_succ_of_le ih
    · exact Nat.le_refl _

/-- A parent has fewer segments, so every chain of parents ends. -/
theorem length_parent?_lt {path parent : Path} (h : path.parent? = some parent) :
    parent.segments.length < path.segments.length := by
  unfold parent? at h
  have hle := length_dropIdle_le path.absolute path.segments.reverse
  split at h
  · simp at h
  · rename_i last earlier heq
    injection h with h
    subst h
    rw [heq] at hle
    have := length_dropIdle_le path.absolute earlier
    simp only [List.length_cons, List.length_reverse] at hle ⊢
    omega

/-- A path and its lexical parents, upwards. -/
def upwards (path : Path) : List Path :=
  path ::
    match _h : path.parent? with
    | none => []
    | some parent => parent.upwards
termination_by path.segments.length
decreasing_by exact length_parent?_lt _h

theorem upwards_eq (path : Path) : path.upwards = path :: (path.parent?.elim [] upwards) := by
  rw [upwards]
  split <;> simp_all

end Path

end CommentSeparator
