import BuildAudit.Proofs.Ownership
import Mathlib.Data.List.Induction

/-!
# Which pair a root belongs to

Roots are given to packages in two rounds. First, of pairs whose roots are spelled in the same way
the last one counts, in the place of the first one; then, of different spellings of one path the
last one counts. So the owner of a root is not the package of the last pair with that root, but that
of the last pair with its newest spelling, which is the one that comes up for the first time after
all others have (`mem_roots_ofPairs_iff_newest`).
-/

namespace BuildAudit

/-- The keys of a table that entries give are those of the entries, in the order of their first
mention. -/
theorem Table.keys_ofEntries {α κ : Type} [DecidableEq κ] (entries : List (κ × α)) :
    (ofEntries entries).keys = (Table.keys entries).eraseDups := by
  induction entries using List.reverseRecOn with
  | nil => rfl
  | append_singleton entries entry ih =>
    have hlast : ofEntries (entries ++ [entry]) = insert (ofEntries entries) entry.1 entry.2 :=
      List.foldl_concat _ _ _ _
    have hkeys : Table.keys (entries ++ [entry]) = Table.keys entries ++ [entry.1] := by
      rw [keys, List.map_append]
      rfl
    rw [hlast, keys_insert, ih, hkeys, List.eraseDups_append]
    by_cases hmem : entry.1 ∈ Table.keys entries <;>
      simp [List.removeAll, List.eraseDups_cons, hmem]

namespace Ownership

/-- The spellings of a path that pairs have as roots, in the order of their first mention. -/
def spellings (pairs : List (CodeText × String)) (root : SourcePath) : List CodeText :=
  (Table.keys pairs).eraseDups.filter (sourcePath · = root)

/-- The spelling of a path that comes up for the first time after all others have. -/
def newestSpelling? (pairs : List (CodeText × String)) (root : SourcePath) : Option CodeText :=
  (spellings pairs root).getLast?

/-- The directories with owners after one has been given to a package. -/
theorem mem_assign_iff {roots : List (SourcePath × String)} (h : (roots.map (·.1)).Nodup)
    {root : SourcePath} {package : String} {entry : SourcePath × String} :
    entry ∈ assign roots root package ↔
      entry = (root, package) ∨ entry ∈ roots ∧ entry.1 ≠ root := by
  induction roots with
  | nil => simp [assign]
  | cons first rest ih =>
    rw [List.map_cons, List.nodup_cons] at h
    rw [assign]
    split
    · next heq =>
      -- The other directories differ from the first one.
      have hother : ∀ other ∈ rest, other.1 ≠ root := by
        rintro other hother rfl
        exact h.1 (heq ▸ List.mem_map_of_mem hother)
      rw [List.mem_cons, List.mem_cons]
      constructor
      · exact Or.imp_right fun hrest => ⟨Or.inr hrest, hother entry hrest⟩
      · rintro (hnew | ⟨rfl | hrest, hne⟩)
        · exact Or.inl hnew
        · exact absurd heq hne
        · exact Or.inr hrest
    · next hne =>
      rw [List.mem_cons, ih h.2, List.mem_cons]
      constructor
      · rintro (rfl | hnew | ⟨hrest, hother⟩)
        · exact Or.inr ⟨Or.inl rfl, hne⟩
        · exact Or.inl hnew
        · exact Or.inr ⟨Or.inr hrest, hother⟩
      · rintro (hnew | ⟨rfl | hrest, hother⟩)
        · exact Or.inr (Or.inl hnew)
        · exact Or.inl rfl
        · exact Or.inr (Or.inr ⟨hrest, hother⟩)

/-- Of pairs that are dealt with in turn the last one with a directory gives it its owner. -/
theorem mem_assignAll_iff {pairs : List (CodeText × String)} {root : SourcePath} {owner : String} :
    (root, owner) ∈ assignAll [] pairs ↔
      ∃ pair, (pairs.filter (sourcePath ·.1 = root)).getLast? = some pair ∧
        canonicalName pair.2 = owner := by
  induction pairs using List.reverseRecOn with
  | nil => simp [assignAll]
  | append_singleton pairs last ih =>
    have hlast : assignAll [] (pairs ++ [last]) =
        assign (assignAll [] pairs) (sourcePath last.1) (canonicalName last.2) :=
      List.foldl_concat _ _ _ _
    have hnone : (([] : List (SourcePath × String)).map (·.1)).Nodup := List.nodup_nil
    rw [hlast, mem_assign_iff (nodup_assignAll hnone pairs), ih, List.filter_append, Prod.mk.injEq]
    by_cases hroot : sourcePath last.1 = root
    · simp [hroot, eq_comm]
    · simp [hroot, Ne.symm hroot]

/-- The owner of a root is the package of the last pair with the newest spelling of the root. -/
theorem mem_roots_ofPairs_iff_newest {pairs : List (CodeText × String)} {root : SourcePath}
    {owner : String} :
    (root, owner) ∈ (ofPairs pairs).roots ↔
      ∃ text package, newestSpelling? pairs root = some text ∧ Table.IsLast pairs text package ∧
        canonicalName package = owner := by
  have hkeys : ((Table.ofEntries pairs).filter (sourcePath ·.1 = root)).map (·.1) =
      spellings pairs root := by
    rw [spellings, ← Table.keys_ofEntries, Table.keys, List.filter_map]
    rfl
  have hnewest (text : CodeText) : newestSpelling? pairs root = some text ↔
      ∃ package, ((Table.ofEntries pairs).filter (sourcePath ·.1 = root)).getLast? =
        some (text, package) := by
    rw [newestSpelling?, ← hkeys, List.getLast?_map, Option.map_eq_some_iff]
    simp
  have hroots : (root, owner) ∈ (ofPairs pairs).roots ↔
      (root, owner) ∈ assignAll [] (Table.ofEntries pairs) :=
    List.mem_mergeSort
  rw [hroots, mem_assignAll_iff]
  constructor
  · rintro ⟨⟨text, package⟩, hlast, rfl⟩
    refine ⟨text, package, (hnewest text).2 ⟨package, hlast⟩, ?_, rfl⟩
    exact Table.mem_ofEntries_iff.1 (List.mem_filter.1 (List.mem_of_getLast? hlast)).1
  · rintro ⟨text, package, htext, hpackage, rfl⟩
    obtain ⟨found, hlast⟩ := (hnewest text).1 htext
    refine ⟨(text, found), hlast, congrArg canonicalName ?_⟩
    -- A spelling has one entry in the table.
    have hfound := (List.mem_filter.1 (List.mem_of_getLast? hlast)).1
    have hgiven := Table.mem_ofEntries_iff.2 hpackage
    rw [← Table.get?_eq_some_iff (Table.nodup_keys_ofEntries pairs)] at hfound hgiven
    exact Option.some.inj (hfound.symm.trans hgiven)

/-- A root is the longest one around a file. -/
structure IsLongest (ownership : Ownership) (path : CodeText) (root : SourcePath) : Prop where
  /-- The root is owned. -/
  owned : root ∈ ownership.roots.map (·.1)
  /-- The root contains the file. -/
  around : root.contains (sourcePath path) = true
  /-- No other root that contains the file is deeper. -/
  deepest : ∀ entry ∈ ownership.roots, entry.1.contains (sourcePath path) = true →
    entry.1.depth ≤ root.depth

/-- The owner of the longest root around a file is the owner of the file. -/
theorem IsLongest.ownerOf?_eq_some_iff {ownership : Ownership} {path : CodeText} {root : SourcePath}
    (h : ownership.IsLongest path root) {owner : String} :
    ownership.ownerOf? path = some owner ↔ (root, owner) ∈ ownership.roots := by
  obtain ⟨⟨_, found⟩, hfound, rfl⟩ := List.mem_map.1 h.owned
  have howner : ownership.ownerOf? path = some found :=
    ownership.ownerOf?_eq_some_iff.2 ⟨_, hfound, h.around, h.deepest⟩
  rw [howner, Option.some.injEq]
  constructor
  · rintro rfl
    exact hfound
  · intro hmem
    exact congrArg Prod.snd (List.inj_on_of_nodup_map ownership.roots_nodup hfound hmem rfl)

/-- An owned root is the longest one around itself. -/
theorem isLongest_self {ownership : Ownership} {text : CodeText}
    (h : sourcePath text ∈ ownership.roots.map (·.1)) :
    ownership.IsLongest text (sourcePath text) where
  owned := h
  around := PosixPath.contains_self _
  deepest _ _ := PosixPath.depth_le_of_contains

end Ownership

end BuildAudit
