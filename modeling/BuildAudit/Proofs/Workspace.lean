import BuildAudit.Workspace.Sources
import Mathlib.Data.List.Nodup

/-!
# Packages of a workspace

A name is looked up in its canonical form. The names of the packages are canonical and distinct, so
looking up the name of a package finds that package, and a name either belongs to exactly one
package or is unknown.
-/

namespace BuildAudit

/-- Of packages with distinct names only one has the name of a package. -/
theorem filter_name_eq_singleton {list : List Package} (hnames : (list.map (·.name)).Nodup)
    {package : Package} (hpackage : package ∈ list) :
    list.filter (·.name == package.name) = [package] := by
  have hsame : list.filter (·.name == package.name) = list.filter (· == package) := by
    refine List.filter_congr fun other hother => ?_
    have hiff : other.name = package.name ↔ other = package :=
      ⟨List.inj_on_of_nodup_map hnames hother hpackage, congrArg _⟩
    rw [Bool.eq_iff_iff, beq_iff_eq, beq_iff_eq, hiff]
  rw [hsame, List.filter_beq, List.count_eq_one_of_mem (List.Nodup.of_map _ hnames) hpackage]
  rfl

/-- Of packages with distinct names the first one with the name of a package is that package. -/
theorem find?_name_eq_some {list : List Package} (hnames : (list.map (·.name)).Nodup)
    {package : Package} (hpackage : package ∈ list) :
    list.find? (·.name == package.name) = some package := by
  rw [← List.head?_filter, filter_name_eq_singleton hnames hpackage]
  rfl

namespace Workspace

variable (workspace : Workspace)

/-- No package of the workspace has a name. -/
def Lacks (name : String) : Prop :=
  ∀ package ∈ workspace.packages, package.name ≠ canonicalName name

/-- Packages with one name are one package. -/
theorem eq_of_name_eq {package other : Package} (hpackage : package ∈ workspace.packages)
    (hother : other ∈ workspace.packages) (hname : package.name = other.name) :
    package = other :=
  List.inj_on_of_nodup_map workspace.names_nodup hpackage hother hname

/-- A name that belongs to a package leads to that package. -/
theorem packageOf_of_name_eq {package : Package} {name : String}
    (hpackage : package ∈ workspace.packages) (hname : package.name = canonicalName name) :
    workspace.packageOf name = .ok package := by
  rw [packageOf, package?, ← hname, find?_name_eq_some workspace.names_nodup hpackage]

/-- The name of a package leads to that package. -/
theorem packageOf_name {package : Package} (hpackage : package ∈ workspace.packages) :
    workspace.packageOf package.name = .ok package :=
  workspace.packageOf_of_name_eq hpackage package.name_canonical.symm

/-- A name that no package has is refused, in its canonical form. -/
theorem packageOf_of_lacks {name : String} (h : workspace.Lacks name) :
    workspace.packageOf name =
      .error (.unknownPackage (canonicalName name) workspace.packageNames) := by
  have hnone : workspace.package? name = none :=
    List.find?_eq_none.2 fun package hpackage => by
      rw [beq_iff_eq]
      exact h package hpackage
  rw [packageOf, hnone]

/-- A name belongs to a package of the workspace or is unknown. -/
theorem lacks_or_exists (name : String) :
    workspace.Lacks name ∨ ∃ package ∈ workspace.packages, package.name = canonicalName name := by
  rcases hfound : workspace.package? name with _ | found
  · refine Or.inl fun package hpackage hname => ?_
    have hnone := List.find?_eq_none.1 hfound package hpackage
    rw [hname, beq_self_eq_true] at hnone
    exact hnone rfl
  · have hsame := List.find?_some hfound
    rw [beq_iff_eq] at hsame
    exact Or.inr ⟨found, List.mem_of_find?_eq_some hfound, hsame⟩

/-- The packages to audit are packages of the workspace, in their order. -/
theorem audited_sublist (all : Bool) : (workspace.audited all).Sublist workspace.packages := by
  rw [audited]
  split
  · exact .refl _
  · exact List.filter_sublist

/-- There are sources to compile unless a selected package is unknown. -/
theorem exists_buildGlobs {selected? : Option String}
    (h : ∀ name, selected? = some name → ¬ workspace.Lacks name) (dependenciesOnly : Bool) :
    ∃ globs, workspace.buildGlobs selected? dependenciesOnly = .ok globs := by
  cases selected? with
  | none => exact ⟨_, rfl⟩
  | some name =>
    obtain ⟨package, hpackage, hname⟩ :=
      (workspace.lacks_or_exists name).resolve_left (h name rfl)
    rw [buildGlobs]
    rw [workspace.packageOf_of_name_eq hpackage hname]
    exact ⟨_, rfl⟩

/-- A package that declares to depend on an external one. -/
def app : Package :=
  .make "app" "app" ["lib-a"] false

/-- The workspace of that package. -/
def sole : Workspace where
  packages := [app]
  dependencies := [("lib-a", ".pedant/p/lib-a")]
  root := .here
  names_nodup := List.nodup_singleton _

end Workspace

end BuildAudit
