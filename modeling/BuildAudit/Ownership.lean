import BuildAudit.Package.Layout
import BuildAudit.Package.Name
import BuildAudit.PosixPath
import BuildAudit.Table

/-!
# Ownership of source files

Every package contributes the directory that holds its modules, and a source file belongs to the
package with the longest such directory around it. Of two packages with one directory the later one
owns it.
-/

namespace BuildAudit

/-- The path of a source file or of a directory of modules. -/
abbrev SourcePath := PosixPath (List CodePoint)

/-- The text without the mentions of the current directory in front of it. -/
def dropHere : List CodePoint → List CodePoint
  | .char '.' :: .char '/' :: rest => dropHere rest
  | points => points

/-- Reads the path of a source file or of a directory of modules, which may have backslashes. -/
def sourcePath (text : CodeText) : SourcePath :=
  .ofList (dropHere (forwardSlashes text.points))

/-- Directories of modules with the packages that own them. -/
structure Ownership where
  /-- The directories, deeper ones first, with the canonical names of their owners. -/
  roots : List (SourcePath × String)
  /-- No directory has two owners. -/
  roots_nodup : (roots.map (·.1)).Nodup
  /-- No directory comes after one that is less deep. -/
  roots_descending : roots.Pairwise fun first second => second.1.depth ≤ first.1.depth
  /-- The owners are canonical names. -/
  owners_canonical : ∀ entry ∈ roots, canonicalName entry.2 = entry.2
deriving DecidableEq

namespace Ownership

/-- Gives a directory to a package, in its place if the directory has an owner already. -/
def assign (roots : List (SourcePath × String)) (root : SourcePath) (package : String) :
    List (SourcePath × String) :=
  match roots with
  | [] => [(root, package)]
  | entry :: rest =>
    if entry.1 = root then (root, package) :: rest else entry :: assign rest root package

/-- A directory has the package that it is given to, or an owner from before. -/
theorem eq_or_mem_of_mem_assign {roots : List (SourcePath × String)} {root : SourcePath}
    {package : String} {entry : SourcePath × String} (h : entry ∈ assign roots root package) :
    entry = (root, package) ∨ entry ∈ roots := by
  induction roots with
  | nil => exact Or.inl (List.mem_singleton.1 h)
  | cons first rest ih =>
    rw [assign] at h
    split at h
    · rcases List.mem_cons.1 h with rfl | hrest
      · exact Or.inl rfl
      · exact Or.inr (.tail _ hrest)
    · rcases List.mem_cons.1 h with rfl | hrest
      · exact Or.inr (.head _)
      · exact (ih hrest).imp id (.tail _)

/-- Giving a directory to a package gives no directory two owners. -/
theorem nodup_assign {roots : List (SourcePath × String)} (h : (roots.map (·.1)).Nodup)
    (root : SourcePath) (package : String) : ((assign roots root package).map (·.1)).Nodup := by
  induction roots with
  | nil => exact List.pairwise_singleton _ root
  | cons first rest ih =>
    rw [List.map_cons, List.nodup_cons] at h
    rw [assign]
    split
    · next heq =>
      rw [List.map_cons, ← heq]
      exact List.nodup_cons.2 h
    · next hne =>
      rw [List.map_cons]
      refine List.nodup_cons.2 ⟨fun hmem => ?_, ih h.2⟩
      obtain ⟨entry, hentry, hsame⟩ := List.mem_map.1 hmem
      rcases eq_or_mem_of_mem_assign hentry with rfl | hrest
      · exact hne hsame.symm
      · exact h.1 (List.mem_map.2 ⟨entry, hrest, hsame⟩)

/-- Gives directories to packages in turn. -/
def assignAll (roots : List (SourcePath × String)) (pairs : List (CodeText × String)) :
    List (SourcePath × String) :=
  pairs.foldl (fun roots pair => assign roots (sourcePath pair.1) (canonicalName pair.2)) roots

/-- Giving directories to packages gives no directory two owners. -/
theorem nodup_assignAll {roots : List (SourcePath × String)} (h : (roots.map (·.1)).Nodup)
    (pairs : List (CodeText × String)) : ((assignAll roots pairs).map (·.1)).Nodup := by
  induction pairs generalizing roots with
  | nil => exact h
  | cons pair rest ih => exact ih (nodup_assign h _ _)

/-- Directories that are given to packages have canonical names as owners. -/
theorem canonical_assignAll {roots : List (SourcePath × String)}
    (h : ∀ entry ∈ roots, canonicalName entry.2 = entry.2) (pairs : List (CodeText × String)) :
    ∀ entry ∈ assignAll roots pairs, canonicalName entry.2 = entry.2 := by
  induction pairs generalizing roots with
  | nil => exact h
  | cons pair rest ih =>
    refine ih fun entry hentry => ?_
    rcases eq_or_mem_of_mem_assign hentry with rfl | hmem
    · exact canonicalName_canonicalName pair.2
    · exact h entry hmem

/-- Whether a directory comes before another one: a deeper one does. -/
def comesBefore (first second : SourcePath × String) : Bool :=
  second.1.depth ≤ first.1.depth

/-- Directories that are put in order are so. -/
theorem pairwise_mergeSort_comesBefore (roots : List (SourcePath × String)) :
    (roots.mergeSort comesBefore).Pairwise fun first second => comesBefore first second = true := by
  refine List.pairwise_mergeSort ?_ ?_ roots
  · intro first second third h h'
    exact decide_eq_true (Nat.le_trans (of_decide_eq_true h') (of_decide_eq_true h))
  · intro first second
    rw [Bool.or_eq_true]
    exact (Nat.le_total second.1.depth first.1.depth).imp decide_eq_true decide_eq_true

/-- The ownership that pairs of a directory and a package give. A directory that is spelled twice
in the same way is dealt with once, in its first place with its last package. -/
def ofPairs (pairs : List (CodeText × String)) : Ownership where
  roots := (assignAll [] (Table.ofEntries pairs)).mergeSort comesBefore
  roots_nodup := by
    have hnone : (([] : List (SourcePath × String)).map (·.1)).Nodup := List.nodup_nil
    exact (((List.mergeSort_perm _ _).map _).nodup_iff).2 (nodup_assignAll hnone _)
  roots_descending := (pairwise_mergeSort_comesBefore _).imp of_decide_eq_true
  owners_canonical entry hentry :=
    canonical_assignAll (fun _ h => absurd h List.not_mem_nil) _ entry (List.mem_mergeSort.1 hentry)

/-- The package that owns the file at a path. -/
def ownerOf? (ownership : Ownership) (path : CodeText) : Option String :=
  (ownership.roots.find? fun entry => entry.1.contains (sourcePath path)).map (·.2)

/-- The number of directories that are owned. -/
def size (ownership : Ownership) : Nat :=
  ownership.roots.length

end Ownership

end BuildAudit
