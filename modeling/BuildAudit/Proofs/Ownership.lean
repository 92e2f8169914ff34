import BuildAudit.Ownership
import BuildAudit.Proofs.Table
import Mathlib.Data.List.Nodup

/-!
# Owners of source files

`Ownership.IsOwner` says without a search who owns a file: the package of the deepest directory
around it. Directories of one depth that contain the same path are the same directory, so there is
at most one owner, and the search finds it (`ownerOf?_eq_some_iff`).
-/

namespace BuildAudit

namespace PosixPath

variable {ν : Type} [DecidableEq ν]

/-- A directory contains a path if it is the directory that relative paths are used in, or if it has
the anchor of the path and the names at its start. -/
theorem contains_iff {directory path : PosixPath ν} :
    directory.contains path = true ↔
      directory = here ∨ directory.anchor = path.anchor ∧ directory.names <+: path.names := by
  rw [contains, Bool.or_eq_true, beq_iff_eq, Bool.and_eq_true, beq_iff_eq,
    List.isPrefixOf_iff_prefix]

omit [DecidableEq ν] in
/-- Only the directory that relative paths are used in has no depth. -/
theorem depth_eq_zero_iff {path : PosixPath ν} : path.depth = 0 ↔ path = here := by
  obtain ⟨anchor, names⟩ := path
  rw [depth, here, Nat.add_eq_zero_iff, List.length_eq_zero_iff, mk.injEq]
  dsimp only
  split <;> simp_all

/-- Directories of one depth around the same path are the same directory. -/
theorem eq_of_contains {left right path : PosixPath ν} (hleft : left.contains path = true)
    (hright : right.contains path = true) (hdepth : left.depth = right.depth) : left = right := by
  rcases contains_iff.1 hleft with rfl | ⟨hanchor, hnames⟩
  · exact (depth_eq_zero_iff.1 (hdepth.symm.trans (depth_eq_zero_iff.2 rfl))).symm
  · rcases contains_iff.1 hright with rfl | ⟨hanchor', hnames'⟩
    · exact depth_eq_zero_iff.1 (hdepth.trans (depth_eq_zero_iff.2 rfl))
    · obtain ⟨anchor, names⟩ := left
      obtain ⟨anchor', names'⟩ := right
      obtain rfl : anchor = anchor' := hanchor.trans hanchor'.symm
      have hlength : names.length = names'.length := Nat.add_right_cancel hdepth
      have hprefix : names <+: names' :=
        List.prefix_of_prefix_length_le hnames hnames' (Nat.le_of_eq hlength)
      obtain rfl : names = names' := hprefix.eq_of_length hlength
      rfl

/-- A path contains itself. -/
theorem contains_self (path : PosixPath ν) : path.contains path = true :=
  contains_iff.2 (Or.inr ⟨rfl, List.prefix_refl _⟩)

/-- A directory is not deeper than a path that it contains. -/
theorem depth_le_of_contains {directory path : PosixPath ν} (h : directory.contains path = true) :
    directory.depth ≤ path.depth := by
  rcases contains_iff.1 h with rfl | ⟨hanchor, hnames⟩
  · exact Nat.zero_le _
  · rw [depth, depth, hanchor]
    exact Nat.add_le_add_right hnames.length_le _

/-- Paths that contain each other are the same path. -/
theorem eq_of_contains_of_contains {left right : PosixPath ν} (h : left.contains right = true)
    (h' : right.contains left = true) : left = right :=
  eq_of_contains (contains_self left) h'
    (Nat.le_antisymm (depth_le_of_contains h) (depth_le_of_contains h'))

end PosixPath

namespace Ownership

variable (ownership : Ownership)

/-- The directories and their owners make up an ownership. -/
theorem eq_of_roots_eq {left right : Ownership} (h : left.roots = right.roots) : left = right := by
  cases left
  cases right
  cases h
  rfl

/-- A package owns the file at a path if its directory contains the path and no other directory that
does is deeper. -/
def IsOwner (path : CodeText) (owner : String) : Prop :=
  ∃ root, (root, owner) ∈ ownership.roots ∧ root.contains (sourcePath path) = true ∧
    ∀ entry ∈ ownership.roots, entry.1.contains (sourcePath path) = true →
      entry.1.depth ≤ root.depth

/-- The package that is found for a path owns it. -/
theorem isOwner_of_ownerOf? {path : CodeText} {owner : String}
    (h : ownership.ownerOf? path = some owner) : ownership.IsOwner path owner := by
  rw [ownerOf?, Option.map_eq_some_iff] at h
  obtain ⟨⟨root, owner⟩, hfound, rfl⟩ := h
  -- Directories before the one that is found do not contain the path, and those after it are not
  -- deeper.
  obtain ⟨hcontains, before, after, hroots, hbefore⟩ := List.find?_eq_some_iff_append.1 hfound
  refine ⟨root, List.mem_of_find?_eq_some hfound, hcontains, fun entry hentry hother => ?_⟩
  have hdescending := ownership.roots_descending
  rw [hroots] at hentry hdescending
  rcases List.mem_append.1 hentry with hmem | hmem
  · have hnot := hbefore entry hmem
    rw [hother] at hnot
    cases hnot
  · rcases List.mem_cons.1 hmem with rfl | hmem
    · exact Nat.le_refl _
    · exact (List.pairwise_cons.1 (List.pairwise_append.1 hdescending).2.1).1 entry hmem

/-- A file has at most one owner. -/
theorem IsOwner.unique {ownership : Ownership} {path : CodeText} {owner other : String}
    (h : ownership.IsOwner path owner) (h' : ownership.IsOwner path other) : owner = other := by
  obtain ⟨root, hmem, hcontains, hdeepest⟩ := h
  obtain ⟨root', hmem', hcontains', hdeepest'⟩ := h'
  have hdepth := Nat.le_antisymm (hdeepest' _ hmem hcontains) (hdeepest _ hmem' hcontains')
  obtain rfl := PosixPath.eq_of_contains hcontains hcontains' hdepth
  -- One directory, and no directory has two owners.
  exact congrArg Prod.snd (List.inj_on_of_nodup_map ownership.roots_nodup hmem hmem' rfl)

/-- The search for an owner finds it. -/
theorem ownerOf?_eq_some_iff {path : CodeText} {owner : String} :
    ownership.ownerOf? path = some owner ↔ ownership.IsOwner path owner := by
  refine ⟨ownership.isOwner_of_ownerOf?, fun h => ?_⟩
  obtain ⟨root, hmem, hcontains, -⟩ := id h
  rcases hfound : ownership.ownerOf? path with _ | found
  · rw [ownerOf?, Option.map_eq_none_iff, List.find?_eq_none] at hfound
    exact absurd hcontains (hfound _ hmem)
  · rw [(ownership.isOwner_of_ownerOf? hfound).unique h]

/-- A file in a directory that is owned has an owner, whose directory is at least as deep. -/
theorem exists_ownerOf? {root : SourcePath} (hroot : root ∈ ownership.roots.map (·.1))
    {path : CodeText} (hcontains : root.contains (sourcePath path) = true) :
    ∃ owner found, ownership.ownerOf? path = some owner ∧ (found, owner) ∈ ownership.roots ∧
      found.contains (sourcePath path) = true ∧ root.depth ≤ found.depth := by
  obtain ⟨entry, hentry, rfl⟩ := List.mem_map.1 hroot
  rcases hsearch : ownership.ownerOf? path with _ | owner
  · rw [ownerOf?, Option.map_eq_none_iff, List.find?_eq_none] at hsearch
    exact absurd hcontains (hsearch entry hentry)
  · obtain ⟨found, hfound, hholds, hdeepest⟩ := ownership.isOwner_of_ownerOf? hsearch
    exact ⟨owner, found, rfl, hfound, hholds, hdeepest entry hentry hcontains⟩

/-- Owners are canonical names. -/
theorem IsOwner.canonical {ownership : Ownership} {path : CodeText} {owner : String}
    (h : ownership.IsOwner path owner) : canonicalName owner = owner := by
  obtain ⟨root, hmem, -⟩ := h
  exact ownership.owners_canonical (root, owner) hmem

section OfPairs

variable {roots : List (SourcePath × String)} {pairs : List (CodeText × String)}

/-- A directory that is given to a package is owned, and so is any other one that was before. -/
theorem mem_map_fst_assign {root other : SourcePath} {package : String} :
    other ∈ (assign roots root package).map (·.1) ↔ other = root ∨ other ∈ roots.map (·.1) := by
  induction roots with
  | nil => simp [assign]
  | cons entry rest ih =>
    rw [assign]
    split
    · next h => simp [h]
    · rw [List.map_cons, List.mem_cons, ih, List.map_cons, List.mem_cons]
      tauto

/-- The directories that are owned in the end are those that are given away and earlier ones. -/
theorem mem_map_fst_assignAll {root : SourcePath} :
    root ∈ (assignAll roots pairs).map (·.1) ↔
      root ∈ pairs.map (sourcePath ·.1) ∨ root ∈ roots.map (·.1) := by
  induction pairs generalizing roots with
  | nil => simp [assignAll]
  | cons pair rest ih =>
    have hstep := @ih (assign roots (sourcePath pair.1) (canonicalName pair.2))
    rw [assignAll] at hstep ⊢
    rw [List.foldl_cons, hstep, mem_map_fst_assign, List.map_cons, List.mem_cons]
    tauto

/-- A directory has the package of a pair with it, or an owner from before. -/
theorem exists_of_mem_assignAll {entry : SourcePath × String} (h : entry ∈ assignAll roots pairs) :
    (∃ pair ∈ pairs, entry = (sourcePath pair.1, canonicalName pair.2)) ∨ entry ∈ roots := by
  induction pairs generalizing roots with
  | nil => exact Or.inr h
  | cons pair rest ih =>
    rcases ih h with ⟨later, hlater, heq⟩ | hstep
    · exact Or.inl ⟨later, .tail _ hlater, heq⟩
    · exact (eq_or_mem_of_mem_assign hstep).imp_left fun heq => ⟨pair, .head _, heq⟩

/-- The owner of a directory is the package of one of the pairs that have this directory. -/
theorem exists_of_mem_roots_ofPairs {entry : SourcePath × String}
    (h : entry ∈ (ofPairs pairs).roots) :
    ∃ pair ∈ pairs, entry = (sourcePath pair.1, canonicalName pair.2) := by
  rcases exists_of_mem_assignAll (List.mem_mergeSort.1 h) with ⟨pair, hpair, heq⟩ | hnone
  · exact ⟨pair, (Table.mem_of_mem_overlay hpair).resolve_right List.not_mem_nil, heq⟩
  · exact absurd hnone List.not_mem_nil

/-- The directory of every pair is owned. -/
theorem sourcePath_mem_roots_ofPairs {pair : CodeText × String} (h : pair ∈ pairs) :
    sourcePath pair.1 ∈ (ofPairs pairs).roots.map (·.1) := by
  have hkey : pair.1 ∈ (Table.ofEntries pairs).keys :=
    Table.mem_keys_overlay.2 (Or.inl (List.mem_map_of_mem h))
  obtain ⟨entry, hentry, heq⟩ := List.mem_map.1 hkey
  have hgiven : sourcePath pair.1 ∈ (Table.ofEntries pairs).map (sourcePath ·.1) :=
    List.mem_map.2 ⟨entry, hentry, congrArg sourcePath heq⟩
  refine (((List.mergeSort_perm _ comesBefore).map _).mem_iff).2 ?_
  exact mem_map_fst_assignAll.2 (Or.inl hgiven)

end OfPairs

end Ownership

end BuildAudit
