import BuildAudit.Package.Basic
import BuildAudit.Proofs.Ownership.Spelling
import Mathlib.Data.List.DropRight

/-!
# The sources of a directory

The source root of a directory is put together as a text: backslashes become slashes, slashes at the
end go, and `src` comes after one slash, or alone for the directory that the path is used in. As a
path this is the directory `src` of the directory, however that is spelled, unless it is spelled
with slashes only: nothing is left of such a text without the slashes at its end, so the root of the
file system is taken for the directory that the path is used in (`keepsDirectory_iff`).
-/

namespace BuildAudit

/-- A text is spelled with slashes and backslashes only, of which there is at least one. -/
def IsSlashes (text : String) : Prop :=
  text ≠ "" ∧ ∀ c ∈ text.toList, c = '/' ∨ c = '\\'

/-- The directory that a text denotes, with slashes for its backslashes. -/
def directoryPath (text : String) : PosixPath :=
  .ofChars (forwardSlashes text.toList)

/-- A source root and a pattern are those of a directory. -/
structure LiesBelow (directory root glob : String) : Prop where
  /-- The source root denotes the directory `src` of the directory. -/
  path_eq : PosixPath.ofText root = (directoryPath directory).join (.ofText "src")
  /-- It starts where the directory starts. -/
  anchor_eq : (PosixPath.ofText root).anchor = (directoryPath directory).anchor
  /-- It has the names of the directory and one more. -/
  names_eq : (PosixPath.ofText root).names = (directoryPath directory).names ++ ["src"]
  /-- The pattern is that of all source files below the source root. -/
  glob_eq : glob = filesBelow root

/-- The sources of a directory lie below it, whether it is that of a package or of an external
package. -/
structure KeepsDirectory (directory : String) : Prop where
  /-- This is so for external packages. -/
  external : LiesBelow directory (sourceRoot directory) (sourceGlob directory)
  /-- And it is so for packages of the workspace. -/
  packages : ∀ package : Package, package.path = directory →
    LiesBelow directory package.root package.glob

theorem dropEndSlashes_eq_rdropWhile (cs : List Char) :
    dropEndSlashes cs = cs.rdropWhile (· = '/') := rfl

theorem dropEndSlashes_eq_nil_iff {cs : List Char} :
    dropEndSlashes cs = [] ↔ ∀ c ∈ cs, c = '/' := by
  simp only [dropEndSlashes_eq_rdropWhile, List.rdropWhile_eq_nil_iff, decide_eq_true_eq]

/-- What is left of a text without the slashes at its end does not end in a slash. -/
theorem exists_ne_slash_of_dropEndSlashes {cs : List Char} (h : dropEndSlashes cs ≠ []) :
    ∃ c ∈ dropEndSlashes cs, c ≠ '/' := by
  refine ⟨(dropEndSlashes cs).getLast h, List.getLast_mem h, fun hslash => ?_⟩
  exact List.rdropWhile_last_not (· = '/') cs h (decide_eq_true hslash)

/-- A text is what is left of it with slashes after it. -/
theorem exists_dropEndSlashes_append (cs : List Char) :
    ∃ count, cs = dropEndSlashes cs ++ List.replicate count '/' := by
  refine ⟨(cs.rtakeWhile (· = '/')).length, ?_⟩
  have hslashes : cs.rtakeWhile (· = '/') = List.replicate _ '/' :=
    List.eq_replicate_of_mem fun c hc => by simpa using List.mem_rtakeWhile_imp hc
  rw [← hslashes, dropEndSlashes_eq_rdropWhile, List.rdropWhile_append_rtakeWhile]

namespace PosixPath

/-- What follows a slash adds its names. -/
theorem names_ofChars_append (before after : List Char) :
    (ofChars (before ++ '/' :: after)).names = (ofChars before).names ++ (ofChars after).names := by
  have hnames := names_ofList_append before after
  rw [Alphabet.ofChar_char] at hnames
  rw [ofChars, ofChars, ofChars, hnames, List.map_append]

/-- Slashes at the end of a text add no names. -/
theorem names_ofChars_append_replicate (cs : List Char) (count : Nat) :
    (ofChars (cs ++ List.replicate count '/')).names = (ofChars cs).names := by
  induction count with
  | zero => rw [List.replicate_zero, List.append_nil]
  | succ count ih =>
    have hnone : (ofChars []).names = [] := by decide
    rw [List.replicate_succ', ← List.append_assoc, names_ofChars_append, hnone, List.append_nil, ih]

/-- Slashes at the end do not matter for a text of which anything is left without them. -/
theorem ofChars_dropEndSlashes {cs : List Char} (h : dropEndSlashes cs ≠ []) :
    ofChars (dropEndSlashes cs) = ofChars cs := by
  obtain ⟨c, hmem, hc⟩ := exists_ne_slash_of_dropEndSlashes h
  obtain ⟨count, hcs⟩ := exists_dropEndSlashes_append cs
  have hanchor : (ofChars (dropEndSlashes cs)).anchor = (ofChars cs).anchor := by
    conv_rhs => rw [hcs]
    exact (anchorOf_append hmem hc _).symm
  have hnames : (ofChars (dropEndSlashes cs)).names = (ofChars cs).names := by
    conv_rhs => rw [hcs]
    exact (names_ofChars_append_replicate _ _).symm
  exact congrArg₂ PosixPath.mk hanchor hnames

/-- A slash and a text without anchor lead on from a directory that is not spelled with slashes
only. -/
theorem ofChars_append_slash {cs after : List Char} {c : Char} (hmem : c ∈ cs) (hc : c ≠ '/')
    (hafter : (ofChars after).anchor = .relative) :
    ofChars (cs ++ '/' :: after) = (ofChars cs).join (ofChars after) := by
  rw [join, if_pos hafter]
  exact congrArg₂ PosixPath.mk (anchorOf_append hmem hc _) (names_ofChars_append _ _)

end PosixPath

/-- A text has only slashes once its backslashes are slashes, if it has only slashes and
backslashes. -/
theorem forall_mem_forwardSlashes_iff {cs : List Char} :
    (∀ c ∈ forwardSlashes cs, c = '/') ↔ ∀ c ∈ cs, c = '/' ∨ c = '\\' := by
  rw [forwardSlashes, List.forall_mem_map]
  refine forall₂_congr fun c _ => ?_
  split
  · next h => simp [show c = '\\' from h]
  · next h => simp [show c ≠ '\\' from h]

/-- Something is left of any text but that without characters and those with slashes only. -/
theorem dropEndSlashes_forwardSlashes_eq_nil_iff {text : String} :
    dropEndSlashes (forwardSlashes text.toList) = [] ↔ text = "" ∨ IsSlashes text := by
  rw [dropEndSlashes_eq_nil_iff, forall_mem_forwardSlashes_iff, IsSlashes]
  by_cases h : text = ""
  · simp [h]
  · simp [h]

/-- The source root of a directory that is not spelled with slashes only denotes its `src`. -/
theorem ofText_sourceRoot {directory : String} (h : ¬ IsSlashes directory) :
    PosixPath.ofText (sourceRoot directory) = (directoryPath directory).join (.ofText "src") := by
  have hhere : PosixPath.ofText "src" = PosixPath.here.join (.ofText "src") := by decide
  by_cases hnone : dropEndSlashes (forwardSlashes directory.toList) = []
  · obtain rfl := (dropEndSlashes_forwardSlashes_eq_nil_iff.1 hnone).resolve_right h
    decide
  · rw [directoryPath, ← PosixPath.ofChars_dropEndSlashes hnone, sourceRoot, within]
    by_cases hdot : dropEndSlashes (forwardSlashes directory.toList) = ['.']
    · rw [if_pos (by simp [hdot]), hdot]
      exact hhere
    · obtain ⟨c, hmem, hc⟩ := exists_ne_slash_of_dropEndSlashes hnone
      rw [if_neg (by simp [hnone, hdot]), PosixPath.ofText, String.toList_append,
        String.toList_append, String.toList_ofList, List.append_assoc]
      exact PosixPath.ofChars_append_slash hmem hc (by decide)

/-- The source root of slashes is that of the directory that paths are used in. -/
theorem sourceRoot_of_isSlashes {directory : String} (h : IsSlashes directory) :
    sourceRoot directory = "src" := by
  rw [sourceRoot, within, dropEndSlashes_forwardSlashes_eq_nil_iff.2 (Or.inr h)]
  rfl

/-- Slashes denote the root of the file system, with one or two slashes in front. -/
theorem anchor_directoryPath_of_isSlashes {directory : String} (h : IsSlashes directory) :
    (directoryPath directory).anchor ≠ .relative := by
  have hsome : forwardSlashes directory.toList ≠ [] := by
    rw [forwardSlashes, ne_eq, List.map_eq_nil_iff]
    simpa using h.1
  obtain ⟨c, rest, hcs⟩ := List.exists_cons_of_ne_nil hsome
  have hc : c = '/' := forall_mem_forwardSlashes_iff.2 h.2 c (hcs ▸ List.mem_cons_self)
  rw [directoryPath, hcs, hc]
  exact fun hrelative => PosixPath.anchorOf_eq_relative_iff.1 hrelative rest rfl

/-- The sources of a directory that is spelled with slashes only do not lie below it. -/
theorem not_keepsDirectory_of_isSlashes {directory : String} (h : IsSlashes directory) :
    ¬ KeepsDirectory directory := by
  intro hkeeps
  have hanchor := hkeeps.external.anchor_eq
  rw [sourceRoot_of_isSlashes h] at hanchor
  exact anchor_directoryPath_of_isSlashes h hanchor.symm

/-- A source root that denotes the `src` of a directory starts where the directory does and has its
names. -/
theorem liesBelow_of_path_eq {directory root : String}
    (h : PosixPath.ofText root = (directoryPath directory).join (.ofText "src")) :
    LiesBelow directory root (filesBelow root) where
  path_eq := h
  anchor_eq := by rw [h]; rfl
  names_eq := by rw [h]; rfl
  glob_eq := rfl

/-- The sources of a directory lie below it just if it is not spelled with slashes only. -/
theorem keepsDirectory_iff (directory : String) :
    KeepsDirectory directory ↔ ¬ IsSlashes directory := by
  constructor
  · exact fun hkeeps hslashes => not_keepsDirectory_of_isSlashes hslashes hkeeps
  · intro hslashes
    have hlies : LiesBelow directory (sourceRoot directory) (sourceGlob directory) := by
      rw [sourceGlob_eq]
      exact liesBelow_of_path_eq (ofText_sourceRoot hslashes)
    refine ⟨hlies, ?_⟩
    rintro package rfl
    exact hlies

/-- A package at the root of the file system has its sources in the directory `src` that paths are
used in. -/
theorem not_keepsDirectory_root :
    (Package.make "app" "/" [] false).root = "src" ∧
      (Package.make "app" "/" [] false).glob = "src/**/*.purs" ∧ sourceRoot "/" = "src" ∧
      ((directoryPath "/").join (.ofText "src")).text = "/src" ∧ ¬ KeepsDirectory "/" := by
  have hslashes : IsSlashes "/" := by
    refine ⟨by decide, fun c hc => Or.inl ?_⟩
    simpa using hc
  refine ⟨?_, ?_, ?_, ?_, not_keepsDirectory_of_isSlashes hslashes⟩
  all_goals decide +kernel

end BuildAudit
