import BuildAudit.Proofs.Ownership
import Mathlib.Data.List.TakeWhile

/-!
# Paths below a source root

A source root is the directory of a package with `src` after it. However the directory is spelled,
the root ends in a name, so neither reading a path nor dropping mentions of the current directory
in front of it goes beyond the root: whatever is written below a root lies in it
(`contains_sourceRoot`), and the pattern for its source files is the root with a fixed text after it
(`sourceGlob_eq`).
-/

namespace BuildAudit

section Reading

variable {α : Type} [DecidableEq α]

/-- The pieces of a text with a mark are those before the mark and those after it. -/
theorem Text.pieces_append_cons (mark : α) (before after : List α) :
    pieces mark (before ++ mark :: after) = pieces mark before ++ pieces mark after := by
  induction before with
  | nil => simp [pieces]
  | cons symbol rest ih =>
    rw [List.cons_append, pieces, pieces, ih]
    by_cases hmark : symbol = mark
    · simp [hmark]
    · rw [if_neg hmark, if_neg hmark]
      cases hp : pieces mark rest with
      | nil => exact absurd hp (pieces_ne_nil mark rest)
      | cons piece more => rfl

variable [Alphabet α]

namespace PosixPath

/-- What follows a slash adds its names. -/
theorem names_ofList_append (before after : List α) :
    (ofList (before ++ Alphabet.ofChar '/' :: after)).names =
      (ofList before).names ++ (ofList after).names := by
  simp only [ofList, Text.pieces_append_cons, List.filter_append]

/-- Where a path starts is settled by the text up to the first symbol that is no slash. -/
theorem anchorOf_append {text : List α} {symbol : α} (hmem : symbol ∈ text)
    (hsymbol : symbol ≠ Alphabet.ofChar '/') (after : List α) :
    anchorOf (text ++ after) = anchorOf text := by
  have hend : (text.takeWhile (· = Alphabet.ofChar '/')).length ≠ text.length := by
    intro hlength
    have hall : text.takeWhile (· = Alphabet.ofChar '/') = text :=
      (List.takeWhile_prefix _).eq_of_length hlength
    exact hsymbol (of_decide_eq_true (List.takeWhile_eq_self_iff.1 hall symbol hmem))
  rw [anchorOf, anchorOf, List.takeWhile_append, if_neg hend]

/-- A directory that is not spelled with slashes only contains what is written below it. -/
theorem contains_ofList_append {text : List α} {symbol : α} (hmem : symbol ∈ text)
    (hsymbol : symbol ≠ Alphabet.ofChar '/') (after : List α) :
    (ofList text).contains (ofList (text ++ Alphabet.ofChar '/' :: after)) = true := by
  refine contains_iff.2 (Or.inr ⟨(anchorOf_append hmem hsymbol _).symm, ?_⟩)
  rw [names_ofList_append]
  exact List.prefix_append _ _

end PosixPath

/-- A text without backslashes keeps its slashes. -/
theorem forwardSlashes_eq_self {text : List α} (h : Alphabet.ofChar '\\' ∉ text) :
    forwardSlashes text = text := by
  rw [forwardSlashes]
  refine (List.map_congr_left fun symbol hsymbol => ?_).trans (List.map_id text)
  rw [if_neg]
  · rfl
  · rintro rfl
    exact h hsymbol

theorem backslash_notMem_forwardSlashes (text : List α) :
    Alphabet.ofChar '\\' ∉ forwardSlashes text := by
  rw [forwardSlashes, List.mem_map]
  rintro ⟨symbol, -, hsymbol⟩
  split at hsymbol
  · exact absurd (Alphabet.ofChar_injective hsymbol) (by decide)
  · next hne => exact hne hsymbol

end Reading

/-- A text that ends in no slash keeps its end. -/
theorem dropEndSlashes_eq_self (cs : List Char) {last : Char} (hlast : last ≠ '/') :
    dropEndSlashes (cs ++ [last]) = cs ++ [last] := by
  simp [dropEndSlashes, hlast]

theorem mem_of_mem_dropEndSlashes {c : Char} {cs : List Char} (h : c ∈ dropEndSlashes cs) :
    c ∈ cs := by
  rw [dropEndSlashes, List.mem_reverse] at h
  exact List.mem_reverse.1 ((List.dropWhile_suffix _).subset h)

/-- Mentions of the current directory are dropped before the last character of a text only, if that
is neither a dot nor a slash. -/
theorem exists_dropHere_append (before : List CodePoint) {last : CodePoint}
    (hdot : last ≠ .char '.') (hslash : last ≠ .char '/') :
    ∃ kept, ∀ after, dropHere (before ++ last :: after) = kept ++ last :: after := by
  induction before using dropHere.induct with
  | case1 rest ih =>
    obtain ⟨kept, hkept⟩ := ih
    exact ⟨kept, hkept⟩
  | case2 cs hother =>
    refine ⟨cs, fun after => ?_⟩
    match cs with
    | [] => simp [dropHere, hdot]
    | [first] => simp [dropHere, hslash]
    | first :: second :: rest =>
      rw [List.cons_append, List.cons_append, dropHere]
      intro others h
      obtain ⟨rfl, htail⟩ := List.cons.inj h
      obtain ⟨rfl, -⟩ := List.cons.inj htail
      exact hother rest rfl

/-- A source root has no backslash and ends in the name `src`. -/
theorem exists_toList_sourceRoot (directory : String) :
    ∃ before, (sourceRoot directory).toList = before ++ ['s', 'r', 'c'] ∧ '\\' ∉ before := by
  rw [sourceRoot, within]
  split
  · exact ⟨[], rfl, List.not_mem_nil⟩
  · refine ⟨dropEndSlashes (forwardSlashes directory.toList) ++ ['/'], by simp, ?_⟩
    rw [List.mem_append, List.mem_singleton, not_or]
    refine ⟨fun h => ?_, by decide⟩
    exact backslash_notMem_forwardSlashes _ (mem_of_mem_dropEndSlashes h)

/-- The pattern of all source files below a directory of modules. -/
def filesBelow (root : String) : String :=
  root ++ "/**/*.purs"

/-- The pattern for the source files of a package is that of the files below its source root. -/
theorem sourceGlob_eq (directory : String) :
    sourceGlob directory = filesBelow (sourceRoot directory) := by
  obtain ⟨before, hroot, hbackslash⟩ := exists_toList_sourceRoot directory
  have hforward : forwardSlashes (before ++ ['s', 'r', 'c']) = before ++ ['s', 'r', 'c'] := by
    refine forwardSlashes_eq_self ?_
    simp [hbackslash]
  have hend : dropEndSlashes (before ++ ['s', 'r', 'c']) = before ++ ['s', 'r', 'c'] := by
    have h := dropEndSlashes_eq_self (before ++ ['s', 'r']) (show 'c' ≠ '/' by decide)
    rwa [List.append_assoc] at h
  have hlong : before ++ ['s', 'r', 'c'] ≠ ['.'] := by
    intro h
    have hlength := congrArg List.length h
    simp at hlength
  rw [sourceGlob, within, hroot, hforward, hend, if_neg (by simp [hlong]), ← hroot,
    String.ofList_toList, String.append_assoc]
  rfl

-- Backslashes and slashes at the end do not show in a pattern.
example : sourceGlob "libs\\prelude//" = filesBelow "libs/prelude/src" := by decide +kernel

/-- The pattern of the files below one directory is not that of another one. -/
theorem filesBelow_inj {root other : String} : filesBelow root = filesBelow other ↔ root = other :=
  String.append_left_inj _

/-- The module with the build information is no pattern of files. -/
theorem filesBelow_ne_buildInfoPath (root : String) : filesBelow root ≠ buildInfoPath := by
  intro h
  -- Both end in `.purs`, with a star before it in one and a letter in the other.
  have hbefore := congrArg (fun text => text.toList.reverse[5]?) h
  rw [filesBelow, String.toList_append, List.reverse_append,
    List.getElem?_append_left (by decide)] at hbefore
  exact absurd hbefore (by decide)

/-- What is written below a source root lies in it. -/
theorem contains_sourceRoot (directory : String) (below : CodeText) :
    (sourcePath (sourceRoot directory)).contains
      (sourcePath (sourceRoot directory ++ "/" ++ below)) = true := by
  obtain ⟨before, hroot, hbackslash⟩ := exists_toList_sourceRoot directory
  have hforward : forwardSlashes ((sourceRoot directory).toList.map CodePoint.char) =
      (before ++ ['s', 'r']).map .char ++ [.char 'c'] := by
    rw [hroot, forwardSlashes_eq_self (by simp [hbackslash])]
    simp
  -- What is dropped in front does not depend on what follows the root.
  obtain ⟨kept, hkept⟩ := exists_dropHere_append ((before ++ ['s', 'r']).map .char)
    (show CodePoint.char 'c' ≠ .char '.' by decide) (by decide)
  have hbelow : forwardSlashes (sourceRoot directory ++ "/" ++ below : CodeText).points =
      (before ++ ['s', 'r']).map .char ++
        .char 'c' :: .char '/' :: forwardSlashes below.points := by
    rw [CodeText.points_string_append, String.toList_append, List.map_append]
    simp only [forwardSlashes, List.map_append] at hforward ⊢
    rw [hforward]
    simp
  have hsplit : kept ++ .char 'c' :: .char '/' :: forwardSlashes below.points =
      (kept ++ [.char 'c']) ++ .char '/' :: forwardSlashes below.points := by
    simp
  have hmem : CodePoint.char 'c' ∈ kept ++ [.char 'c'] := List.mem_append_right _ (.head _)
  rw [sourcePath, sourcePath, CodeText.points_ofString, hforward, hbelow, hkept, hkept, hsplit]
  exact PosixPath.contains_ofList_append hmem (by decide) _

end BuildAudit
