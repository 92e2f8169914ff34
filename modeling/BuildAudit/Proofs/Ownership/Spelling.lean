import BuildAudit.Proofs.SourcePath

/-!
# Spellings of a path

A text denotes a path, in which single dots and empty names do not show. Files and roots are read
after the mentions of the current directory in front of them have been dropped from the text, so a
text may come to be read as another path than it denotes: what is left of `.//src` starts with a
slash. Such a text is uprooted, and all others are read as the path that they denote
(`sourcePath_eq_iff`). Two spellings of a path are treated alike just if both are read with the same
slashes in front (`treatsAlike_iff`), which only matters if one of them is uprooted.
-/

namespace BuildAudit

/-- The path that a text denotes, with slashes for its backslashes. -/
def denotedPath (text : CodeText) : SourcePath :=
  .ofList (forwardSlashes text.points)

/-- A number of mentions of the current directory. -/
def mentionsOfHere (count : Nat) : List CodePoint :=
  (List.replicate count [.char '.', .char '/']).flatten

/-- One more slash follows the mentions of the current directory in front of a text. -/
def IsUprooted (text : CodeText) : Prop :=
  ∃ count rest, forwardSlashes text.points = mentionsOfHere (count + 1) ++ .char '/' :: rest

theorem mentionsOfHere_succ (count : Nat) (points : List CodePoint) :
    mentionsOfHere (count + 1) ++ points =
      .char '.' :: .char '/' :: (mentionsOfHere count ++ points) :=
  rfl

/-- Nothing but mentions of the current directory is dropped. -/
theorem exists_eq_mentionsOfHere_append (points : List CodePoint) :
    ∃ count, points = mentionsOfHere count ++ dropHere points := by
  induction points using dropHere.induct with
  | case1 rest ih =>
    obtain ⟨count, hrest⟩ := ih
    refine ⟨count + 1, ?_⟩
    rw [mentionsOfHere_succ, dropHere, ← hrest]
  | case2 points hother => exact ⟨0, by rw [dropHere.eq_2 points hother]; rfl⟩

/-- All mentions of the current directory before a slash are dropped. -/
theorem dropHere_mentionsOfHere_append (count : Nat) (rest : List CodePoint) :
    dropHere (mentionsOfHere count ++ .char '/' :: rest) = .char '/' :: rest := by
  induction count with
  | zero => rfl
  | succ count ih => rw [mentionsOfHere_succ, dropHere, ih]

namespace PosixPath

/-- A path has an anchor just if its text starts with a slash. -/
theorem anchorOf_eq_relative_iff {α : Type} [DecidableEq α] [Alphabet α] {text : List α} :
    anchorOf text = .relative ↔ ∀ rest, text ≠ Alphabet.ofChar '/' :: rest := by
  cases text with
  | nil => simp [anchorOf]
  | cons symbol rest =>
    by_cases hsymbol : symbol = Alphabet.ofChar '/'
    · have hslashes : (symbol :: rest).takeWhile (· = Alphabet.ofChar '/') =
          symbol :: rest.takeWhile (· = Alphabet.ofChar '/') :=
        List.takeWhile_cons_of_pos (decide_eq_true hsymbol)
      rw [anchorOf, hslashes, List.length_cons]
      split <;> simp_all
    · simp [anchorOf, hsymbol]

/-- The names of a path do not depend on the mentions of the current directory in front of it. -/
theorem names_ofList_dropHere (points : List CodePoint) :
    (ofList (dropHere points)).names = (ofList points).names := by
  induction points using dropHere.induct with
  | case1 rest ih =>
    have hhere : (ofList [CodePoint.char '.']).names = [] := by decide
    have hsplit := names_ofList_append [CodePoint.char '.'] rest
    rw [hhere, List.nil_append] at hsplit
    rw [dropHere, ih, ← hsplit]
    rfl
  | case2 points hother => rw [dropHere.eq_2 points hother]

end PosixPath

/-- A text has the names of the path that it denotes. -/
theorem names_sourcePath (text : CodeText) :
    (sourcePath text).names = (denotedPath text).names :=
  PosixPath.names_ofList_dropHere _

/-- A text is read as the path that it denotes unless it is uprooted. -/
theorem sourcePath_eq_iff {text : CodeText} :
    sourcePath text = denotedPath text ↔ ¬ IsUprooted text := by
  constructor
  · rintro hsame ⟨count, rest, htext⟩
    have hanchor := congrArg PosixPath.anchor hsame
    rw [sourcePath, denotedPath, htext, dropHere_mentionsOfHere_append, mentionsOfHere_succ]
      at hanchor
    -- What is left starts with a slash, and the text with a dot.
    exact PosixPath.anchorOf_eq_relative_iff.1 hanchor rest rfl
  · intro hrooted
    obtain ⟨count, htext⟩ := exists_eq_mentionsOfHere_append (forwardSlashes text.points)
    cases count with
    | zero => exact congrArg PosixPath.ofList htext.symm
    | succ count =>
      have hleft : PosixPath.anchorOf (dropHere (forwardSlashes text.points)) = .relative := by
        refine PosixPath.anchorOf_eq_relative_iff.2 fun rest hrest => hrooted ⟨count, rest, ?_⟩
        rw [← Alphabet.ofChar_codePoint, ← hrest]
        exact htext
      have hright : PosixPath.anchorOf (forwardSlashes text.points) = .relative := by
        rw [htext, mentionsOfHere_succ]
        rfl
      exact congrArg₂ PosixPath.mk (hleft.trans hright.symm) (names_sourcePath text)

namespace Ownership

/-- Two spellings of a path are treated alike. -/
structure TreatsAlike (left right : CodeText) : Prop where
  /-- They have the same owner as spellings of the path of a file. -/
  files : ∀ ownership : Ownership, ownership.ownerOf? left = ownership.ownerOf? right
  /-- Either will do as the spelling of a root, if no root is spelled twice in the same way. -/
  roots : ∀ (before after : List (CodeText × String)) (package : String),
    (Table.keys (before ++ (left, package) :: after)).Nodup →
    (Table.keys (before ++ (right, package) :: after)).Nodup →
    ∀ path, (ofPairs (before ++ (left, package) :: after)).ownerOf? path =
      (ofPairs (before ++ (right, package) :: after)).ownerOf? path

/-- The root of a single pair is the only one. -/
theorem ownerOf?_ofPairs_singleton (root : CodeText) (package : String) (path : CodeText) :
    (ofPairs [(root, package)]).ownerOf? path =
      if (sourcePath root).contains (sourcePath path) then some (canonicalName package)
      else none := by
  have hroots : (ofPairs [(root, package)]).roots = [(sourcePath root, canonicalName package)] :=
    List.mergeSort_singleton _
  rw [ownerOf?, hroots, List.find?_singleton]
  split <;> rfl

/-- Pairs without a spelling that comes twice give an ownership that depends on the paths of the
roots only. -/
theorem ofPairs_congr {pairs listed : List (CodeText × String)} (hpairs : (Table.keys pairs).Nodup)
    (hlisted : (Table.keys listed).Nodup)
    (hsame : pairs.map (fun pair => (sourcePath pair.1, canonicalName pair.2)) =
      listed.map fun pair => (sourcePath pair.1, canonicalName pair.2)) :
    ofPairs pairs = ofPairs listed := by
  have hassign (given : List (CodeText × String)) : assignAll [] given =
      (given.map fun pair => (sourcePath pair.1, canonicalName pair.2)).foldl
        (fun roots entry => assign roots entry.1 entry.2) [] := by
    rw [assignAll, List.foldl_map]
  refine eq_of_roots_eq (congrArg (List.mergeSort · comesBefore) ?_)
  rw [Table.ofEntries_eq_self hpairs, Table.ofEntries_eq_self hlisted, hassign, hassign, hsame]

/-- Texts that are read as the same path are treated alike. -/
theorem treatsAlike_of_sourcePath_eq {left right : CodeText}
    (h : sourcePath left = sourcePath right) : TreatsAlike left right where
  files ownership := by rw [ownerOf?, ownerOf?, h]
  roots before after package hleft hright path := by
    rw [ofPairs_congr hleft hright]
    rw [List.map_append, List.map_append, List.map_cons, List.map_cons, h]

/-- Texts that have the same owner in every ownership are read as the same path. -/
theorem sourcePath_eq_of_ownerOf? {left right : CodeText}
    (h : ∀ ownership : Ownership, ownership.ownerOf? left = ownership.ownerOf? right) :
    sourcePath left = sourcePath right := by
  -- Each of the two is a root that contains the one text just if it contains the other.
  have hcontains (root : CodeText) :
      (sourcePath root).contains (sourcePath left) =
        (sourcePath root).contains (sourcePath right) := by
    have hroot := h (ofPairs [(root, "")])
    rw [ownerOf?_ofPairs_singleton, ownerOf?_ofPairs_singleton] at hroot
    split at hroot <;> split at hroot <;> simp_all
  refine PosixPath.eq_of_contains_of_contains ?_ ?_
  · rw [← hcontains left]
    exact PosixPath.contains_self _
  · rw [hcontains right]
    exact PosixPath.contains_self _

/-- Two spellings of a path are treated alike just if neither is uprooted or both are read with the
same slashes in front. -/
theorem treatsAlike_iff {left right : CodeText} (hsame : denotedPath left = denotedPath right) :
    TreatsAlike left right ↔
      (IsUprooted left ∨ IsUprooted right →
        (sourcePath left).anchor = (sourcePath right).anchor) := by
  constructor
  · intro halike _
    rw [sourcePath_eq_of_ownerOf? halike.files]
  · intro hanchor
    refine treatsAlike_of_sourcePath_eq ?_
    by_cases huprooted : IsUprooted left ∨ IsUprooted right
    · have hnames : (sourcePath left).names = (sourcePath right).names := by
        rw [names_sourcePath, names_sourcePath, hsame]
      exact congrArg₂ PosixPath.mk (hanchor huprooted) hnames
    · rw [not_or] at huprooted
      rw [sourcePath_eq_iff.2 huprooted.1, sourcePath_eq_iff.2 huprooted.2, hsame]

/-- Mentions of the current directory, doubled slashes, slashes at the end and backslashes do not
matter for the owner of a file. -/
theorem treatsAlike_iff_dotted :
    denotedPath ".\\./app//src\\./App.purs/" = denotedPath "app/src/App.purs" ∧
      TreatsAlike ".\\./app//src\\./App.purs/" "app/src/App.purs" := by
  have hsame : denotedPath ".\\./app//src\\./App.purs/" = denotedPath "app/src/App.purs" := by
    decide +kernel
  exact ⟨hsame, (treatsAlike_iff hsame).2 fun _ => by decide +kernel⟩

/-- The same file has no owner if the slash after the mention of the current directory is doubled,
since it is looked for at the root of the file system. -/
theorem not_treatsAlike_doubled :
    denotedPath ".//app/src/App.purs" = denotedPath "app/src/App.purs" ∧
      (ofPairs [("app/src", "app")]).ownerOf? "app/src/App.purs" = some "app" ∧
      (ofPairs [("app/src", "app")]).ownerOf? ".//app/src/App.purs" = none ∧
      ¬ TreatsAlike ".//app/src/App.purs" "app/src/App.purs" := by
  have howned : (ofPairs [("app/src", "app")]).ownerOf? "app/src/App.purs" = some "app" := by
    rw [ownerOf?_ofPairs_singleton]
    decide +kernel
  have hnone : (ofPairs [("app/src", "app")]).ownerOf? ".//app/src/App.purs" = none := by
    rw [ownerOf?_ofPairs_singleton]
    decide +kernel
  refine ⟨by decide +kernel, howned, hnone, fun halike => ?_⟩
  have hfiles := halike.files (ofPairs [("app/src", "app")])
  rw [howned, hnone] at hfiles
  cases hfiles

end Ownership

end BuildAudit
