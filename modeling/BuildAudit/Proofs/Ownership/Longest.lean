import BuildAudit.Proofs.Ownership

/-!
# The longest root wins

The parts of a path are the slashes in front, if there are any, and then its names. A root contains
a path just if its parts are the first parts of the path (`contains_iff_parts`), so the roots around
one path are prefixes of each other, and roots that differ have different lengths. With roots that
are pairwise different the owner of a file is the package of the root with the most parts, in
whatever order the roots are listed (`longestWins`). The root without parts contains every path and
loses to every other root that does.
-/

namespace BuildAudit

/-- No piece of a text holds the mark at which the text is cut. -/
theorem Text.notMem_of_mem_pieces {α : Type} [DecidableEq α] {mark : α} {cs piece : List α}
    (h : piece ∈ pieces mark cs) : mark ∉ piece := by
  induction cs generalizing piece with
  | nil =>
    rw [pieces, List.mem_singleton] at h
    rw [h]
    exact List.not_mem_nil
  | cons c rest ih =>
    rw [pieces] at h
    split at h
    · rcases List.mem_cons.1 h with rfl | hrest
      · exact List.not_mem_nil
      · exact ih hrest
    · next hc =>
      -- The character goes to the front of the first piece.
      cases hp : pieces mark rest with
      | nil => exact absurd hp (pieces_ne_nil mark rest)
      | cons first more =>
        rw [hp] at h ih
        rcases List.mem_cons.1 h with rfl | hmore
        · rw [List.mem_cons, not_or]
          exact ⟨Ne.symm hc, ih (.head _)⟩
        · exact ih (.tail _ hmore)

/-- The slashes in front of a path as a part of it. -/
def Anchor.part (anchor : Anchor) : List CodePoint :=
  anchor.text.toList.map .char

namespace PosixPath

/-- The parts of a path: the slashes in front, if there are any, and the names. -/
def parts (path : SourcePath) : List (List CodePoint) :=
  if path.anchor = .relative then path.names else path.anchor.part :: path.names

theorem parts_here : here.parts = [] := rfl

/-- The depth of a path is the number of its parts. -/
theorem length_parts (path : SourcePath) : path.parts.length = path.depth := by
  rw [parts, depth]
  split
  · rfl
  · exact List.length_cons

/-- No name on the way of a path has a slash in it. -/
def HasPlainNames (path : SourcePath) : Prop :=
  ∀ name ∈ path.names, .char '/' ∉ name

/-- A path that is read has plain names. -/
theorem hasPlainNames_ofList (points : List CodePoint) : HasPlainNames (ofList points) :=
  fun _ hname => Text.notMem_of_mem_pieces (List.mem_filter.1 hname).1

/-- The slashes in front of a path are no plain name. -/
theorem slash_mem_anchor_part {anchor : Anchor} (h : anchor ≠ .relative) :
    .char '/' ∈ anchor.part := by
  cases anchor with
  | relative => exact absurd rfl h
  | root => decide
  | doubleRoot => decide

theorem anchor_part_injective {left right : Anchor} (h : left.part = right.part) :
    left = right := by
  revert h
  cases left <;> cases right <;> decide

/-- A directory contains a path just if its parts are the first parts of the path. -/
theorem contains_iff_parts {directory path : SourcePath} (hdirectory : directory.HasPlainNames)
    (hpath : path.HasPlainNames) :
    directory.contains path = true ↔ directory.parts <+: path.parts := by
  obtain ⟨anchor, names⟩ := directory
  obtain ⟨anchor', names'⟩ := path
  rw [contains_iff]
  constructor
  · rintro (hhere | ⟨rfl, hnames⟩)
    · rw [hhere]
      exact List.nil_prefix
    · rw [parts, parts]
      split
      · exact hnames
      · exact (List.prefix_cons_inj _).2 hnames
  · intro hparts
    rw [parts, parts] at hparts
    dsimp only at hparts
    -- A part with slashes is an anchor and no name, so both paths have it or neither does.
    by_cases hrelative : anchor = .relative <;> by_cases hrelative' : anchor' = .relative
    · rw [if_pos hrelative, if_pos hrelative'] at hparts
      exact Or.inr ⟨hrelative.trans hrelative'.symm, hparts⟩
    · rw [if_pos hrelative, if_neg hrelative'] at hparts
      cases names with
      | nil => exact Or.inl (by rw [hrelative, here])
      | cons name rest =>
        obtain ⟨rfl, -⟩ := List.cons_prefix_cons.1 hparts
        exact absurd (slash_mem_anchor_part hrelative') (hdirectory _ (.head _))
    · rw [if_neg hrelative, if_pos hrelative'] at hparts
      have hmem : anchor.part ∈ names' := hparts.subset (.head _)
      exact absurd (slash_mem_anchor_part hrelative) (hpath _ hmem)
    · rw [if_neg hrelative, if_neg hrelative'] at hparts
      obtain ⟨htext, hnames⟩ := List.cons_prefix_cons.1 hparts
      exact Or.inr ⟨anchor_part_injective htext, hnames⟩

end PosixPath

/-- The parts of the path of a source file or of a directory of modules. -/
def sourceParts (text : CodeText) : List (List CodePoint) :=
  (sourcePath text).parts

/-- A directory of modules contains a file just if its parts are the first parts of the file's
path. -/
theorem contains_sourcePath_iff {root path : CodeText} :
    (sourcePath root).contains (sourcePath path) = true ↔ sourceParts root <+: sourceParts path :=
  PosixPath.contains_iff_parts (PosixPath.hasPlainNames_ofList _)
    (PosixPath.hasPlainNames_ofList _)

namespace Ownership

/-- The pair of a root and a package wins the file at a path: its root has the first parts of the
path, and more of them than any other root of the list that has. -/
structure Wins (pairs : List (CodeText × String)) (path : CodeText)
    (pair : CodeText × String) : Prop where
  /-- The pair is listed. -/
  listed : pair ∈ pairs
  /-- The root contains the path. -/
  around : sourceParts pair.1 <+: sourceParts path
  /-- Every other root that contains the path has fewer parts. -/
  longest : ∀ other ∈ pairs, sourceParts other.1 <+: sourceParts path → other ≠ pair →
    (sourceParts other.1).length < (sourceParts pair.1).length

/-- Files go to the longest roots of a list. -/
structure LongestWins (pairs : List (CodeText × String)) : Prop where
  /-- The owner of a file is the package of the pair that wins it, in canonical form. -/
  owner_iff : ∀ path owner, (ofPairs pairs).ownerOf? path = some owner ↔
    ∃ pair, Wins pairs path pair ∧ owner = canonicalName pair.2
  /-- A file has no owner just if no root contains it. -/
  none_iff : ∀ path, (ofPairs pairs).ownerOf? path = none ↔
    ∀ pair ∈ pairs, ¬ sourceParts pair.1 <+: sourceParts path
  /-- The root without parts contains every path and wins those that no other root contains. -/
  here : ∀ pair ∈ pairs, sourcePath pair.1 = .here → ∀ path,
    sourceParts pair.1 <+: sourceParts path ∧
      (Wins pairs path pair ↔
        ∀ other ∈ pairs, sourceParts other.1 <+: sourceParts path → other = pair)
  /-- The order in which the pairs are listed does not matter. -/
  order : ∀ listed, listed.Perm pairs → ∀ path,
    (ofPairs listed).ownerOf? path = (ofPairs pairs).ownerOf? path
  /-- One more root, wherever it is listed, matters only for the paths that it contains. -/
  more : ∀ extra : CodeText × String, sourcePath extra.1 ∉ pairs.map (sourcePath ·.1) →
    ∀ listed, listed.Perm (extra :: pairs) → ∀ path, ¬ sourceParts extra.1 <+: sourceParts path →
      (ofPairs listed).ownerOf? path = (ofPairs pairs).ownerOf? path

/-- The root without parts wins the paths that no other root contains. -/
theorem wins_here_iff {pairs : List (CodeText × String)} {pair : CodeText × String}
    (hpair : pair ∈ pairs) (hhere : sourcePath pair.1 = .here) (path : CodeText) :
    Wins pairs path pair ↔
      ∀ other ∈ pairs, sourceParts other.1 <+: sourceParts path → other = pair := by
  have hparts : sourceParts pair.1 = [] := by rw [sourceParts, hhere, PosixPath.parts_here]
  constructor
  · intro h other hother haround
    by_contra hne
    have hlength := h.longest other hother haround hne
    rw [hparts] at hlength
    exact Nat.not_lt_zero _ hlength
  · intro honly
    have haround : sourceParts pair.1 <+: sourceParts path := by
      rw [hparts]
      exact List.nil_prefix
    exact ⟨hpair, haround, fun other hother hother' hne => absurd (honly other hother hother') hne⟩

section Distinct

variable {pairs : List (CodeText × String)} (hdistinct : (pairs.map (sourcePath ·.1)).Nodup)

include hdistinct

/-- With roots that are pairwise different every root keeps its package. -/
theorem mem_roots_ofPairs_iff {entry : SourcePath × String} :
    entry ∈ (ofPairs pairs).roots ↔
      ∃ pair ∈ pairs, entry = (sourcePath pair.1, canonicalName pair.2) := by
  refine ⟨exists_of_mem_roots_ofPairs, ?_⟩
  rintro ⟨pair, hpair, rfl⟩
  obtain ⟨entry, hentry, hroot⟩ := List.mem_map.1 (sourcePath_mem_roots_ofPairs hpair)
  obtain ⟨other, hother, rfl⟩ := exists_of_mem_roots_ofPairs hentry
  rwa [List.inj_on_of_nodup_map hdistinct hother hpair hroot] at hentry

/-- Roots around one path that have equally many parts are one root. -/
theorem eq_of_length_eq {path : CodeText} {pair other : CodeText × String} (hpair : pair ∈ pairs)
    (hother : other ∈ pairs) (haround : sourceParts pair.1 <+: sourceParts path)
    (haround' : sourceParts other.1 <+: sourceParts path)
    (hlength : (sourceParts other.1).length = (sourceParts pair.1).length) : other = pair := by
  refine List.inj_on_of_nodup_map hdistinct hother hpair ?_
  refine PosixPath.eq_of_contains (contains_sourcePath_iff.2 haround')
    (contains_sourcePath_iff.2 haround) ?_
  rw [← PosixPath.length_parts, ← PosixPath.length_parts]
  exact hlength

/-- The owner of a file is the package of the pair that wins it. -/
theorem ownerOf?_ofPairs_eq_some_iff {path : CodeText} {owner : String} :
    (ofPairs pairs).ownerOf? path = some owner ↔
      ∃ pair, Wins pairs path pair ∧ owner = canonicalName pair.2 := by
  rw [ownerOf?_eq_some_iff, IsOwner]
  constructor
  · rintro ⟨root, hmem, hcontains, hdeepest⟩
    obtain ⟨pair, hpair, heq⟩ := (mem_roots_ofPairs_iff hdistinct).1 hmem
    cases heq
    have haround := contains_sourcePath_iff.1 hcontains
    refine ⟨pair, ⟨hpair, haround, fun other hother haround' hne => ?_⟩, rfl⟩
    -- The owner's root is among the deepest, and roots of one length around a file are equal.
    have hle : (sourceParts other.1).length ≤ (sourceParts pair.1).length := by
      have hentry := (mem_roots_ofPairs_iff hdistinct).2 ⟨other, hother, rfl⟩
      have hdepth := hdeepest _ hentry (contains_sourcePath_iff.2 haround')
      rwa [← PosixPath.length_parts, ← PosixPath.length_parts] at hdepth
    exact Nat.lt_of_le_of_ne hle fun hlength =>
      hne (eq_of_length_eq hdistinct hpair hother haround haround' hlength)
  · rintro ⟨pair, hwins, rfl⟩
    refine ⟨sourcePath pair.1, (mem_roots_ofPairs_iff hdistinct).2 ⟨pair, hwins.listed, rfl⟩,
      contains_sourcePath_iff.2 hwins.around, fun entry hentry hcontains => ?_⟩
    obtain ⟨other, hother, rfl⟩ := (mem_roots_ofPairs_iff hdistinct).1 hentry
    rw [← PosixPath.length_parts, ← PosixPath.length_parts]
    by_cases hsame : other = pair
    · exact Nat.le_of_eq (by rw [hsame])
    · have haround := contains_sourcePath_iff.1 hcontains
      exact Nat.le_of_lt (hwins.longest other hother haround hsame)

/-- A file has no owner just if no root contains it. -/
theorem ownerOf?_ofPairs_eq_none_iff {path : CodeText} :
    (ofPairs pairs).ownerOf? path = none ↔
      ∀ pair ∈ pairs, ¬ sourceParts pair.1 <+: sourceParts path := by
  rw [ownerOf?, Option.map_eq_none_iff, List.find?_eq_none]
  constructor
  · intro hnone pair hpair haround
    exact hnone _ ((mem_roots_ofPairs_iff hdistinct).2 ⟨pair, hpair, rfl⟩)
      (contains_sourcePath_iff.2 haround)
  · intro hnone entry hentry hcontains
    obtain ⟨pair, hpair, rfl⟩ := (mem_roots_ofPairs_iff hdistinct).1 hentry
    exact hnone pair hpair (contains_sourcePath_iff.1 hcontains)

/-- Lists with the same roots around a path, with the same packages, give the path to the same
owner. -/
theorem ownerOf?_ofPairs_congr {listed : List (CodeText × String)}
    (hlisted : (listed.map (sourcePath ·.1)).Nodup) {path : CodeText}
    (hsame : ∀ pair : CodeText × String, sourceParts pair.1 <+: sourceParts path →
      (pair ∈ listed ↔ pair ∈ pairs)) :
    (ofPairs listed).ownerOf? path = (ofPairs pairs).ownerOf? path := by
  have hwins (pair : CodeText × String) : Wins listed path pair ↔ Wins pairs path pair := by
    constructor
    · intro h
      exact ⟨(hsame pair h.around).1 h.listed, h.around, fun other hother haround =>
        h.longest other ((hsame other haround).2 hother) haround⟩
    · intro h
      exact ⟨(hsame pair h.around).2 h.listed, h.around, fun other hother haround =>
        h.longest other ((hsame other haround).1 hother) haround⟩
  refine Option.ext fun owner => ?_
  simp only [ownerOf?_ofPairs_eq_some_iff hlisted, ownerOf?_ofPairs_eq_some_iff hdistinct, hwins]

end Distinct

/-- Files go to the longest of roots that are pairwise different. -/
theorem longestWins {pairs : List (CodeText × String)}
    (hdistinct : (pairs.map (sourcePath ·.1)).Nodup) : LongestWins pairs := by
  constructor
  case owner_iff => exact fun path owner => ownerOf?_ofPairs_eq_some_iff hdistinct
  case none_iff => exact fun path => ownerOf?_ofPairs_eq_none_iff hdistinct
  case here =>
    intro pair hpair hhere path
    refine ⟨?_, wins_here_iff hpair hhere path⟩
    rw [sourceParts, hhere]
    exact List.nil_prefix
  case order =>
    intro listed hperm path
    have hroots := hperm.map fun pair => sourcePath pair.1
    have hlisted := hroots.nodup_iff.2 hdistinct
    refine ownerOf?_ofPairs_congr hdistinct hlisted fun pair haround => ?_
    exact hperm.mem_iff
  case more =>
    intro extra hnew listed hperm path hapart
    have hroots := hperm.map fun pair => sourcePath pair.1
    have hlisted := hroots.nodup_iff.2 (List.nodup_cons.2 ⟨hnew, hdistinct⟩)
    refine ownerOf?_ofPairs_congr hdistinct hlisted fun pair haround => ?_
    -- The new pair is none of those whose roots contain the path.
    have hother : pair ≠ extra := by
      rintro rfl
      exact hapart haround
    rw [hperm.mem_iff, List.mem_cons, or_iff_right hother]

/-- Roots inside each other and beside each other, with and without slashes in front. -/
def nestedRoots : List (CodeText × String) :=
  [(".", "Root"), ("app/src", "app"), ("./app/srcgen/", "Gen "), ("app\\src\\..\\old", "old"),
    ("/", "system"), ("//share", "share")]

/-- The file in the directory of generated modules belongs to `gen`, and not to `app`, whose root is
a prefix only of the text; a path from the root of the file system goes to `system`, and one outside
all other roots to `root`. -/
theorem longestWins_nestedRoots :
    (nestedRoots.map (sourcePath ·.1)).Nodup ∧ LongestWins nestedRoots ∧
      (ofPairs nestedRoots).ownerOf? "app/srcgen/Gen.purs" = some "gen" ∧
      (ofPairs nestedRoots).ownerOf? "/app/src/Main.purs" = some "system" ∧
      (ofPairs nestedRoots).ownerOf? "lib/src/Lib.purs" = some "root" := by
  have hdistinct : (nestedRoots.map (sourcePath ·.1)).Nodup := by decide +kernel
  have hwins := longestWins hdistinct
  refine ⟨hdistinct, hwins, ?_, ?_, ?_⟩
  · refine (hwins.owner_iff _ _).2 ⟨("./app/srcgen/", "Gen "), ⟨?_, ?_, ?_⟩, ?_⟩ <;> decide +kernel
  · refine (hwins.owner_iff _ _).2 ⟨("/", "system"), ⟨?_, ?_, ?_⟩, ?_⟩ <;> decide +kernel
  · refine (hwins.owner_iff _ _).2 ⟨(".", "Root"), ⟨?_, ?_, ?_⟩, ?_⟩ <;> decide +kernel

end Ownership

end BuildAudit
