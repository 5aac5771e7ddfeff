import CommentSeparator.FileTree
import CommentSeparator.Proofs.Path.Upwards
import CommentSeparator.Proofs.Style.Chosen

/-!
# The nearest style file

The search goes up from a directory, parent by parent, and takes the first candidate that is a
regular file.  The way up is known from the path alone (`Path.ancestor?`): it has one candidate for
each step of the directory and one for its top, and no candidate comes twice
(`nodup_candidates`).

**What is asked.**  `searchBy` is the search with any way to ask whether there is a file.  Asked
with a note of every question, it shows what the search looks at: the candidates in order, up to the
first file (`run_searchBy`).  Nothing else can make a difference to what is found.

**What is passed over.**  A candidate that is no regular file counts for nothing.  So the search
goes on above it, and a directory below another one finds what the other one finds unless it has a
style file of its own (`search_join`).
-/

namespace CommentSeparator.StyleFile

variable {files : FileView} {directory : Path}

/-! ## Candidates -/

lemma steps_inDirectory (directory : Path) :
    (inDirectory directory).steps = directory.steps ++ ["sepgen.toml"] :=
  directory.steps_join (by decide)

/-- No candidate comes twice: on the way up the candidates have fewer and fewer steps. -/
lemma nodup_candidates (directory : Path) : (candidates directory).Nodup := by
  have hshorter : (candidates directory).Pairwise
      fun lower higher => higher.steps.length < lower.steps.length := by
    rw [candidates, List.pairwise_map]
    refine directory.pairwise_upwards.imp fun hlt => ?_
    simpa [steps_inDirectory] using hlt
  exact hshorter.imp fun hlt heq => absurd hlt (by simp [heq])

/-! ## What is asked -/

/-- The search, with any way to ask whether there is a file. -/
def searchBy {m : Type → Type} [Monad m] (ask : Path → m Bool) (directory : Path) :
    m (Option Path) := do
  if ← ask (inDirectory directory) then pure (some (inDirectory directory))
  else
    match _h : directory.parent? with
    | none => pure none
    | some parent => searchBy ask parent
termination_by directory.segments.length
decreasing_by exact Path.length_parent?_lt _h

/-- Asks whether there is a file, and makes a note of the question. -/
def noting (files : FileView) (path : Path) : StateM (List Path) Bool := do
  modify (· ++ [path])
  pure (files.isFile path)

/-- One question, and what is done about the answer. -/
lemma run_searchBy_eq (files : FileView) (directory : Path) (asked : List Path) :
    (searchBy (noting files) directory).run asked
      = if files.isFile (inDirectory directory) then
          (some (inDirectory directory), asked ++ [inDirectory directory])
        else
          directory.parent?.elim (none, asked ++ [inDirectory directory]) fun parent =>
            (searchBy (noting files) parent).run (asked ++ [inDirectory directory]) := by
  rw [searchBy]
  cases hfile : files.isFile (inDirectory directory) with
  | true =>
      simp only [noting, hfile, StateT.run_bind]
      rfl
  | false =>
      simp only [noting, hfile, StateT.run_bind]
      cases hparent : directory.parent? <;> rfl

/-- What the search asks about: the candidates that are no files, and then the one that is. -/
lemma run_searchBy (files : FileView) (directory : Path) (asked : List Path) :
    (searchBy (noting files) directory).run asked
      = (search files directory,
        asked ++ ((candidates directory).takeWhile (!files.isFile ·)
          ++ (search files directory).toList)) := by
  induction directory using search.induct files generalizing asked with
  | case1 directory hfile =>
      rw [run_searchBy_eq, search, if_pos hfile, if_pos hfile, candidates, Path.upwards_eq,
        List.map_cons, List.takeWhile_cons_of_neg (by simp [hfile])]
      rfl
  | case2 directory hfile hparent =>
      rw [run_searchBy_eq, search, if_neg hfile, if_neg hfile, candidates, Path.upwards_eq,
        hparent]
      simp [hfile]
  | case3 directory hfile parent hparent ih =>
      rw [run_searchBy_eq, search, if_neg hfile, if_neg hfile, candidates, Path.upwards_eq,
        hparent]
      simp [hfile, ih, candidates]

/-- What is taken in order up to a first one is the beginning of a list. -/
lemma takeWhile_append_find?_prefix {α : Type} (p : α → Bool) (xs : List α) :
    xs.takeWhile (!p ·) ++ (xs.find? p).toList <+: xs := by
  induction xs with
  | nil => exact List.prefix_rfl
  | cons x xs ih =>
      cases hx : p x with
      | true => simp [hx]
      | false => simpa [hx] using ih

/-- Every candidate that is reached is asked about. -/
lemma mem_asked_of_reached {path : Path} (h : Reached files directory path) :
    path ∈ (candidates directory).takeWhile (!files.isFile ·)
      ++ (search files directory).toList := by
  have hreached := h
  obtain ⟨nearer, farther, hcandidates, hmissing⟩ := h
  rw [List.mem_append]
  cases hfile : files.isFile path with
  | true =>
      rw [search_eq_some_iff.mpr ⟨hreached, hfile⟩]
      exact .inr List.mem_cons_self
  | false =>
      refine .inl ?_
      rw [hcandidates, List.takeWhile_append_of_pos (by simpa using hmissing),
        List.takeWhile_cons_of_pos (by simp [hfile])]
      exact List.mem_append_right _ List.mem_cons_self

/-! ## What is passed over -/

/-- Above a candidate that is no file, the search goes on. -/
lemma search_of_not_isFile (h : files.isFile (inDirectory directory) = false) :
    search files directory = directory.parent?.bind (search files) := by
  rw [search, if_neg (by simp [h])]
  cases directory.parent? <;> rfl

/-- A directory below another one has the same nearest file, if it has none itself. -/
lemma search_join {name : String} (hname : Path.namesStep name = true)
    (hdirectory : ∀ last ∈ directory.segments.getLast?, Path.namesStep last = true)
    (h : files.isFile (inDirectory (directory.join ⟨false, [name]⟩)) = false) :
    search files (directory.join ⟨false, [name]⟩) = search files directory := by
  rw [search_of_not_isFile h, Path.parent?_join hdirectory hname]
  rfl

/-- A path that leads to a directory, or nowhere, is no file. -/
lemma isFile_eq_false {tree : FileTree} {here : Location} {path : Path}
    (h : (∃ location, tree.walk .follow here path = .ok location
          ∧ tree.node? location = some .directory)
        ∨ ∃ error, tree.walk .follow here path = .error error) :
    (tree.view here).isFile path = false := by
  show tree.isFile here path = false
  unfold FileTree.isFile
  rcases h with ⟨location, hwalk, hnode⟩ | ⟨error, hwalk⟩
  · rw [hwalk]
    simp only [hnode]
  · rw [hwalk]

/-- **The search ends, and what it finds is the nearest style file.**

There is one candidate for each step of the directory and one more: those of the directory, of its
parent, and so on.  Each parent has one step less, and the last one is the root or the empty path,
unless it is the directory itself.  What is found is the first candidate that is a regular file, and
nothing is found iff none is one.  No candidate is asked about twice, and nothing but what is asked
about makes a difference.  Where a directory, or a link that leads nowhere, stands in place of a
style file, it is passed over.  And in a directory without a style file the nearest one is that of
the directory above, as long as the path is written without anything idle. -/
theorem search_nearest (files : FileView) (directory : Path) :
    let found := search files directory
    (∀ i : ℕ, (candidates directory)[i]? = (directory.ancestor? i).map inDirectory)
      ∧ (candidates directory).length = directory.steps.length + 1
      ∧ (∀ i above, directory.ancestor? i = some above →
          above.absolute = directory.absolute
            ∧ above.steps = directory.steps.take (directory.steps.length - i)
            ∧ (above.steps = [] → above = directory ∨ above = ⟨directory.absolute, []⟩))
      ∧ (∀ path, found = some path
          ↔ files.isFile path = true ∧ ∃ i : ℕ, (candidates directory)[i]? = some path
            ∧ ∀ j < i, ∀ nearer ∈ (candidates directory)[j]?, files.isFile nearer = false)
      ∧ (found = none ↔ ∀ path ∈ candidates directory, files.isFile path = false)
      ∧ (∃ asked, (searchBy (noting files) directory).run [] = (found, asked)
          ∧ asked.Nodup ∧ asked <+: candidates directory
          ∧ ∀ other, (∀ path ∈ asked, other.isFile path = files.isFile path) →
            search other directory = found)
      ∧ (∀ (tree : FileTree) here,
          (∃ location, tree.walk .follow here (inDirectory directory) = .ok location
              ∧ tree.node? location = some .directory)
            ∨ (∃ error, tree.walk .follow here (inDirectory directory) = .error error) →
          search (tree.view here) directory
            = directory.parent?.bind (search (tree.view here)))
      ∧ ∀ name, Path.IsName name →
          (∀ segment ∈ directory.segments, segment ≠ "" ∧ segment ≠ ".") →
          files.isFile (inDirectory (directory.join (.ofText name))) = false →
          search files (directory.join (.ofText name)) = found := by
  intro found
  refine ⟨fun i => ?_, ?_, fun i above habove => ?_, fun path => ?_, search_eq_none_iff, ?_,
    fun tree here h => search_of_not_isFile (isFile_eq_false h), fun name hname hidle hfile => ?_⟩
  · rw [candidates, List.getElem?_map, Path.getElem?_upwards]
  · rw [candidates, List.length_map, Path.length_upwards]
  · obtain ⟨habsolute, hsteps⟩ := Path.steps_of_ancestor? habove
    exact ⟨habsolute, hsteps, fun htop => Path.eq_of_top habove (Path.parent?_eq_none_iff.mpr htop)⟩
  · rw [show found = _ from search_eq_find? files directory, List.find?_eq_some_iff_getElem]
    refine and_congr_right fun _ => exists_congr fun i => ?_
    constructor
    · rintro ⟨hi, hpath, hearlier⟩
      refine ⟨by rw [List.getElem?_eq_getElem hi, hpath], fun j hj nearer hnearer => ?_⟩
      rw [List.getElem?_eq_getElem (Nat.lt_trans hj hi)] at hnearer
      simpa [Option.some.inj hnearer] using hearlier j hj
    · rintro ⟨hpath, hearlier⟩
      obtain ⟨hi, hget⟩ := List.getElem?_eq_some_iff.mp hpath
      refine ⟨hi, hget, fun j hj => ?_⟩
      simpa using hearlier j hj _ (List.getElem?_eq_getElem (Nat.lt_trans hj hi))
  · have hprefix := takeWhile_append_find?_prefix files.isFile (candidates directory)
    rw [← search_eq_find?] at hprefix
    refine ⟨_, run_searchBy files directory [], ?_, hprefix, fun other hother => ?_⟩
    · exact hprefix.sublist.nodup (nodup_candidates directory)
    · exact search_congr fun path hreached => hother path (mem_asked_of_reached hreached)
  · rw [Path.ofText_of_isName hname] at hfile ⊢
    refine search_join hname.namesStep (fun last hlast => ?_) hfile
    obtain ⟨hnonempty, hdot⟩ := hidle last (List.mem_of_getLast? hlast)
    simp [Path.namesStep, hnonempty, hdot]

/-- A link that leads nowhere, in a directory that is written with dots and separators behind it,
and the same directory below the root. -/
theorem search_nearest_of_dangling_link :
    let tree : FileTree :=
      ⟨[(["a"], .directory), (["a", "sepgen.toml"], .link ⟨false, ["gone"]⟩),
        (["sepgen.toml"], .file [])]⟩
    let files := tree.view []
    let directory := Path.ofText "/a/.//"
    tree.walk .follow [] (inDirectory directory) = .error .notFound
      ∧ directory.ancestor? 1 = some ⟨true, []⟩
      ∧ search files directory = search files ⟨true, []⟩
      ∧ search files ⟨true, []⟩ = some ⟨true, ["sepgen.toml"]⟩
      ∧ Path.IsName "a"
      ∧ files.isFile (inDirectory (Path.join ⟨true, []⟩ (.ofText "a"))) = false
      ∧ search files (Path.join ⟨true, []⟩ (.ofText "a")) = search files ⟨true, []⟩ := by
  intro tree files directory
  have hsizes : "a".utf8ByteSize = 1 ∧ "sepgen.toml".utf8ByteSize = 11 ∧ "gone".utf8ByteSize = 4 :=
    ⟨rfl, rfl, rfl⟩
  have hwalk : ∀ path, FileTree.checkPath path = .ok () →
      tree.walk .follow [] path
        = tree.walkNames .follow FileTree.linkBound (FileTree.startOf [] path) path.segments := by
    intro path hcheck
    rw [FileTree.walk, hcheck]
    rfl
  have hlink : tree.walk .follow [] (inDirectory directory) = .error .notFound := by
    rw [show inDirectory directory = ⟨true, ["a", ".", "", "sepgen.toml"]⟩ from rfl,
      hwalk _ (by decide +kernel)]
    simp [tree, FileTree.startOf, FileTree.walkNames, FileTree.node?, List.lookup_cons,
      FileTree.linkBound, FileTree.nameBound, hsizes]
  have hbelow : tree.walk .follow [] ⟨true, ["a", "sepgen.toml"]⟩ = .error .notFound := by
    rw [hwalk _ (by decide +kernel)]
    simp [tree, FileTree.startOf, FileTree.walkNames, FileTree.node?, List.lookup_cons,
      FileTree.linkBound, FileTree.nameBound, hsizes]
  have hroot : tree.walk .follow [] ⟨true, ["sepgen.toml"]⟩ = .ok ["sepgen.toml"] := by
    rw [hwalk _ (by decide +kernel)]
    simp [tree, FileTree.startOf, FileTree.walkNames, FileTree.node?, List.lookup_cons,
      FileTree.linkBound, FileTree.nameBound, hsizes]
  have hfile : files.isFile ⟨true, ["sepgen.toml"]⟩ = true := by
    show tree.isFile [] _ = true
    simp [FileTree.isFile, hroot, tree, FileTree.node?, List.lookup_cons]
  have hname : Path.IsName "a" := ⟨by decide, by decide, by decide⟩
  have hnone : files.isFile (inDirectory (Path.join ⟨true, []⟩ (.ofText "a"))) = false :=
    isFile_eq_false (.inr ⟨_, hbelow⟩)
  obtain ⟨-, -, -, -, -, -, hpassed, -⟩ := search_nearest files directory
  obtain ⟨hway, -, -, hfound, -, -, -, hjoin⟩ := search_nearest files ⟨true, []⟩
  have hnearest : search files ⟨true, []⟩ = some ⟨true, ["sepgen.toml"]⟩ :=
    (hfound _).mpr ⟨hfile, 0, (hway 0).trans rfl, fun j hj => absurd hj (Nat.not_lt_zero j)⟩
  exact ⟨hlink, rfl, hpassed tree [] (.inr ⟨_, hlink⟩), hnearest, hname, hnone,
    hjoin "a" hname (by simp) hnone⟩

end CommentSeparator.StyleFile
