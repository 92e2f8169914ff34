import BuildAudit.FileTree
import BuildAudit.Proofs.Checks

/-!
# Files that were written

A file that is put at a place is found there, and nothing else is found in another way. A path that
leads to the place leads there still: what is put there was no directory before, so no path goes on
from it. So what was written at a path is what is read there (`read_of_write`).

Making directories leaves everything where it is (`keepsNodes_makeAlong`), and writing does so
everywhere but at the place of the file (`node?_of_write`). Neither loses a directory
(`KeepsDirectories`). So directories that were made are found the next time (`makeAlong_eq_self`),
and what was written can be written once more, which leaves the same tree (`write_of_write`).
-/

namespace BuildAudit.FileTree

variable {tree later : FileTree} {place : Place} {node : FileNode}

theorem lookup_filter_ne (nodes : List (Place × FileNode)) {other : Place} (h : other ≠ place) :
    (nodes.filter (·.1 != place)).lookup other = nodes.lookup other := by
  induction nodes with
  | nil => rfl
  | cons first rest ih =>
    by_cases hfirst : first.1 = place
    · have hother : (other == first.1) = false := by simpa [hfirst] using h
      rw [List.filter_cons_of_neg (by simpa using hfirst), ih, List.lookup_cons, hother]
    · rw [List.filter_cons_of_pos (by simpa using hfirst), List.lookup_cons, List.lookup_cons, ih]

/-- A node that is put at a place is found there. -/
theorem node?_put_self (h : place ≠ []) : (tree.put place node).node? place = some node := by
  rw [node?, if_neg h, put, List.lookup_cons_self]

/-- At other places the same is found as before. -/
theorem node?_put_of_ne {other : Place} (h : other ≠ place) :
    (tree.put place node).node? other = tree.node? other := by
  have hkey : (other == place) = false := by simpa using h
  rw [node?, node?, put, List.lookup_cons, hkey]
  simp only
  rw [lookup_filter_ne _ h]

/-- A path leads to where it led before a node was put where there was no directory. -/
theorem follow_put (hplace : tree.node? place ≠ some .directory) {start target : Place}
    {names : List String} (h : tree.follow start names = .ok target) :
    (tree.put place node).follow start names = .ok target := by
  induction names generalizing start with
  | nil => exact h
  | cons name rest ih =>
    rw [follow] at h ⊢
    split at h
    · cases h
    · cases h
    · next hstart =>
      -- The path goes on from here, so a directory is here and not at the place.
      have hne : start ≠ place := by
        rintro rfl
        exact hplace hstart
      rw [node?_put_of_ne hne, hstart]
      dsimp only
      split at h
      · next hback => rw [if_pos hback, ih h]
      · next hback =>
        split at h
        · cases h
        · next hlong => rw [if_neg hback, if_neg hlong, ih h]

/-- A path is not longer or shorter because of what is put in a tree. -/
theorem placeOf_put (hplace : tree.node? place ≠ some .directory) {path : PosixPath}
    {target : Place} (h : tree.placeOf path = .ok target) :
    (tree.put place node).placeOf path = .ok target := by
  rw [placeOf] at h ⊢
  split at h
  · cases h
  · next hlong =>
    rw [if_neg hlong]
    exact follow_put hplace h

/-- A file is written at the place that its path leads to: there is no directory, but around it. -/
theorem exists_place_of_write {path : PosixPath} {content : List UInt8}
    (h : tree.write path content = .ok later) :
    ∃ place, tree.placeOf path = .ok place ∧ tree.node? place ≠ some .directory ∧
      tree.node? place.dropLast = some .directory ∧ later = tree.put place (.file content) := by
  obtain ⟨place, hplace, hput⟩ := bind_eq_ok_iff.1 h
  split at hput
  · cases hput
  · next hfree =>
    split at hput
    · next hparent =>
      cases hput
      exact ⟨place, hplace, hfree, hparent, rfl⟩
    · cases hput
    · cases hput

/-- The root is a directory. -/
theorem ne_nil_of_node?_ne (h : tree.node? place ≠ some .directory) : place ≠ [] := by
  rintro rfl
  exact h rfl

/-- What was written at a path is what is read there. -/
theorem read_of_write {path : PosixPath} {content : List UInt8}
    (h : tree.write path content = .ok later) : later.read path = .ok content := by
  obtain ⟨place, hplace, hfree, -, rfl⟩ := exists_place_of_write h
  simp only [read, find, placeOf_put hfree hplace, node?_put_self (ne_nil_of_node?_ne hfree), bind,
    Except.bind]

/-- Something stands at a path that is read. -/
theorem hasPath_of_read {path : PosixPath} {content : List UInt8}
    (h : tree.read path = .ok content) : tree.hasPath path = .ok true := by
  obtain ⟨node, hnode, -⟩ := bind_eq_ok_iff.1 h
  rw [hasPath, find?, hnode]
  rfl

/-- Of two nodes that are put at one place the later one counts. -/
theorem put_put (tree : FileTree) (place : Place) (node other : FileNode) :
    (tree.put place node).put place other = tree.put place other := by
  have hgone : ((place, node) :: tree.nodes.filter (·.1 != place)).filter (·.1 != place) =
      tree.nodes.filter (·.1 != place) := by
    rw [List.filter_cons_of_neg (by simp), List.filter_filter]
    simp only [Bool.and_self]
  rw [put, put, put, hgone]

@[simp]
theorem workingDirectory_put (tree : FileTree) (place : Place) (node : FileNode) :
    (tree.put place node).workingDirectory = tree.workingDirectory := rfl

/-- All directories of a tree are directories of another one. -/
def KeepsDirectories (tree later : FileTree) : Prop :=
  ∀ place, tree.node? place = some .directory → later.node? place = some .directory

/-- No directory is lost if a node is put where there was none. -/
theorem keepsDirectories_put (hplace : tree.node? place ≠ some .directory) :
    KeepsDirectories tree (tree.put place node) := by
  intro other hother
  have hne : other ≠ place := by
    rintro rfl
    exact hplace hother
  rw [node?_put_of_ne hne, hother]

/-- What stands somewhere in a tree stands there in another one too. -/
def KeepsNodes (tree later : FileTree) : Prop :=
  ∀ place node, tree.node? place = some node → later.node? place = some node

theorem KeepsNodes.trans {last : FileTree} (first : KeepsNodes tree later)
    (second : KeepsNodes later last) : KeepsNodes tree last :=
  fun place node h => second place node (first place node h)

/-- Everything stays where it is if a node is put where there was nothing. -/
theorem keepsNodes_put (hplace : tree.node? place = none) :
    KeepsNodes tree (tree.put place node) := by
  intro other held hother
  have hne : other ≠ place := by
    rintro rfl
    cases hplace.symm.trans hother
  rw [node?_put_of_ne hne, hother]

section MakeAlong

variable {start : Place} {names : List String}

/-- Making directories leaves everything where it is. -/
theorem keepsNodes_makeAlong (h : tree.makeAlong start names = .ok later) :
    KeepsNodes tree later := by
  induction names generalizing tree start with
  | nil =>
    cases h
    exact fun _ _ hplace => hplace
  | cons name rest ih =>
    rw [makeAlong] at h
    split at h
    · exact ih h
    · split at h
      · exact ih h
      · cases h
      · next hnone => exact (keepsNodes_put hnone).trans (ih h)

/-- Making directories loses none. -/
theorem keepsDirectories_makeAlong (h : tree.makeAlong start names = .ok later) :
    KeepsDirectories tree later :=
  fun place => keepsNodes_makeAlong h place .directory

/-- Making directories leaves the working directory. -/
theorem workingDirectory_makeAlong (h : tree.makeAlong start names = .ok later) :
    later.workingDirectory = tree.workingDirectory := by
  induction names generalizing tree start with
  | nil =>
    cases h
    rfl
  | cons name rest ih =>
    rw [makeAlong] at h
    split at h
    · exact ih h
    · split at h
      · exact ih h
      · cases h
      · rw [ih h, workingDirectory_put]

/-- Directories that were made along names need not be made again as long as none is lost. -/
theorem makeAlong_eq_self {made : FileTree} (h : tree.makeAlong start names = .ok made)
    (hkeeps : KeepsDirectories made later) : later.makeAlong start names = .ok later := by
  induction names generalizing tree start with
  | nil => rfl
  | cons name rest ih =>
    -- The directory of this name is there before the rest is made, so it is there later on.
    have hthere {before : FileTree} (hbefore : before.node? (start ++ [name]) = some .directory)
        (hrest : before.makeAlong (start ++ [name]) rest = .ok made) :
        later.node? (start ++ [name]) = some .directory :=
      hkeeps _ (keepsDirectories_makeAlong hrest _ hbefore)
    rw [makeAlong] at h ⊢
    split at h
    · next hback => rw [if_pos hback, ih h]
    · next hback =>
      rw [if_neg hback]
      split at h
      · next hdirectory =>
        rw [hthere hdirectory h]
        exact ih h
      · cases h
      · rw [hthere (node?_put_self (by simp)) h]
        exact ih h

end MakeAlong

section Write

variable {path : PosixPath} {content : List UInt8}

/-- Writing a file loses no directory. -/
theorem keepsDirectories_write (h : tree.write path content = .ok later) :
    KeepsDirectories tree later := by
  obtain ⟨place, -, hfree, -, rfl⟩ := exists_place_of_write h
  exact keepsDirectories_put hfree

/-- Writing a file leaves everything else where it is. -/
theorem node?_of_write (h : tree.write path content = .ok later)
    (hplace : later.placeOf path ≠ .ok place) : later.node? place = tree.node? place := by
  obtain ⟨written, hwritten, hfree, -, rfl⟩ := exists_place_of_write h
  refine node?_put_of_ne ?_
  rintro rfl
  exact hplace (placeOf_put hfree hwritten)

/-- What was written can be written once more, which leaves the tree as it is. -/
theorem write_of_write (h : tree.write path content = .ok later) :
    later.write path content = .ok later := by
  have hkept := keepsDirectories_write h
  obtain ⟨place, hplace, hfree, hparent, rfl⟩ := exists_place_of_write h
  rw [write, placeOf_put hfree hplace]
  simp only [bind, Except.bind, node?_put_self (ne_nil_of_node?_ne hfree), hkept _ hparent, put_put]

/-- So can what was written in a directory that was made for it. -/
theorem makeDirectory_write_of_write {directory : PosixPath}
    (h : (tree.makeDirectory directory).bind (·.write path content) = .ok later) :
    (later.makeDirectory directory).bind (·.write path content) = .ok later := by
  obtain ⟨made, hmade, hwrite⟩ := bind_eq_ok_iff.1 h
  obtain ⟨place, -, -, -, hlater⟩ := exists_place_of_write hwrite
  have hstart : later.workingDirectory = tree.workingDirectory := by
    rw [hlater, workingDirectory_put, workingDirectory_makeAlong hmade]
  have hfound : later.makeDirectory directory = .ok later := by
    rw [makeDirectory, hstart]
    exact makeAlong_eq_self hmade (keepsDirectories_write hwrite)
  rw [hfound]
  exact write_of_write hwrite

end Write

end BuildAudit.FileTree
