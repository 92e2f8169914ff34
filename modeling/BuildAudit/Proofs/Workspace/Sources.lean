import BuildAudit.Proofs.SourcePath
import BuildAudit.Proofs.Usage.Report
import BuildAudit.Proofs.Workspace

/-!
# Compiled and graphed sources agree

Builds and audits collect patterns in different ways: a build lists the packages, or the others and
the selected one, an audit lists the packages and then its own one once more. What they collect is
one set, the sources of the workspace (`Workspace.IsSource`), so that an audit looks at the sources
that were compiled (`exists_sourcesAgree`). The one set that differs is that of a build for the
dependencies of a selected package. It lacks the pattern of this package, unless the pattern is
shared with another package or an external one.
-/

namespace BuildAudit

/-- The module with the build information is no pattern of a package. -/
theorem sourceGlob_ne_buildInfoPath (directory : String) :
    sourceGlob directory ≠ buildInfoPath := by
  rw [sourceGlob_eq]
  exact filesBelow_ne_buildInfoPath _

namespace Workspace

variable (workspace : Workspace)

/-- A pattern is that of an external package. -/
def IsExternal (glob : String) : Prop :=
  ∃ entry ∈ workspace.dependencies, sourceGlob entry.2 = glob

/-- A pattern belongs to the sources of the workspace: it is that of a package or of an external
package, or the module with the build information. -/
def IsSource (glob : String) : Prop :=
  (∃ package ∈ workspace.packages, package.glob = glob) ∨ workspace.IsExternal glob ∨
    glob = buildInfoPath

/-- The pattern of a package is also that of another package or of an external one. -/
def IsShared (package : Package) : Prop :=
  (∃ other ∈ workspace.packages, other.name ≠ package.name ∧ other.glob = package.glob) ∨
    workspace.IsExternal package.glob

/-- Builds and audits collect the same patterns. -/
structure SourcesAgree (globs : NameSet) : Prop where
  /-- The patterns are the sources of the workspace. -/
  sources : Enumerates globs workspace.IsSource
  /-- Builds without a selected package compile them, also if they are for dependencies only. -/
  whole : ∀ dependenciesOnly, workspace.buildGlobs none dependenciesOnly = .ok globs
  /-- So do builds of a package, however its name is spelled. -/
  selected : ∀ package ∈ workspace.packages, ∀ name, canonicalName name = package.name →
    workspace.buildGlobs (some name) false = .ok globs
  /-- Audits of a package graph them. -/
  audited : ∀ package ∈ workspace.packages, workspace.auditGlobs package = globs
  /-- Builds for the dependencies of a package compile them without the pattern of the package,
  unless that is shared. -/
  dependenciesOnly : ∀ package ∈ workspace.packages, ∀ name, canonicalName name = package.name →
    ∃ others, workspace.buildGlobs (some name) true = .ok others ∧
      Enumerates others fun glob =>
        glob ∈ globs ∧ (glob = package.glob → workspace.IsShared package)
  /-- A name that belongs to no package is refused. -/
  unknown : ∀ name, workspace.Lacks name → ∀ dependenciesOnly,
    workspace.buildGlobs (some name) dependenciesOnly =
      .error (.unknownPackage (canonicalName name) workspace.packageNames)

/-- The patterns of the external packages are those of their directories. -/
theorem mem_dependencyGlobs_iff {glob : String} :
    glob ∈ workspace.dependencyGlobs ↔ workspace.IsExternal glob := by
  simp [dependencyGlobs, Table.values, IsExternal]

section Collect

variable {workspace} {package : Package} {glob : String}

/-- A set of the external patterns, the module with the build information and those of some packages
has the sources of these packages. -/
theorem mem_collected_iff {chosen : List Package} :
    glob ∈ workspace.dependencyGlobs ++ buildInfoPath :: chosen.map (·.glob) ↔
      (∃ package ∈ chosen, package.glob = glob) ∨ workspace.IsExternal glob ∨
        glob = buildInfoPath := by
  rw [List.mem_append, List.mem_cons, List.mem_map, mem_dependencyGlobs_iff, or_rotate, or_comm,
    or_assoc]

/-- What an audit graphs are the sources of the workspace, its own package being one of them. -/
theorem enumerates_auditGlobs (hpackage : package ∈ workspace.packages) :
    Enumerates (workspace.auditGlobs package) workspace.IsSource := by
  refine (OrderedSet.enumerates_ofList _).congr fun glob => ?_
  rw [List.mem_append, List.mem_append, mem_dependencyGlobs_iff, List.mem_map, List.mem_cons,
    List.mem_singleton, IsSource]
  constructor
  · rintro ((hexternal | hlisted) | hown | hinfo)
    · exact Or.inr (Or.inl hexternal)
    · exact Or.inl hlisted
    · exact Or.inl ⟨package, hpackage, hown.symm⟩
    · exact Or.inr (Or.inr hinfo)
  · rintro (hlisted | hexternal | hinfo)
    · exact Or.inl (Or.inr hlisted)
    · exact Or.inl (Or.inl hexternal)
    · exact Or.inr (Or.inr hinfo)

/-- A build of a package compiles the patterns of the other packages, and that of its own unless it
is for dependencies only. -/
theorem exists_buildGlobs_some (hpackage : package ∈ workspace.packages) {name : String}
    (hname : canonicalName name = package.name) (dependenciesOnly : Bool) :
    ∃ globs, workspace.buildGlobs (some name) dependenciesOnly = .ok globs ∧
      Enumerates globs fun glob =>
        (∃ other ∈ workspace.packages,
          (other.name ≠ package.name ∨ dependenciesOnly = false) ∧ other.glob = glob) ∨
        workspace.IsExternal glob ∨ glob = buildInfoPath := by
  have hfound := workspace.packageOf_of_name_eq hpackage hname.symm
  refine ⟨_, by rw [buildGlobs, hfound]; rfl, (OrderedSet.enumerates_ofList _).congr fun glob => ?_⟩
  rw [mem_collected_iff]
  refine or_congr_left ⟨?_, ?_⟩
  · rintro ⟨other, hother, rfl⟩
    rcases List.mem_append.1 hother with hrest | hown
    · obtain ⟨hmem, hne⟩ := List.mem_filter.1 hrest
      exact ⟨other, hmem, Or.inl (by simpa using hne), rfl⟩
    · cases dependenciesOnly with
      | true => cases hown
      | false =>
        obtain rfl := List.mem_singleton.1 hown
        exact ⟨other, hpackage, Or.inr rfl, rfl⟩
  · rintro ⟨other, hother, hchosen, rfl⟩
    refine ⟨other, List.mem_append.2 ?_, rfl⟩
    by_cases hsame : other.name = package.name
    · -- Only the selected package has its name, so here it is compiled itself.
      obtain rfl := workspace.eq_of_name_eq hother hpackage hsame
      rw [hchosen.resolve_left (absurd rfl)]
      exact Or.inr (List.mem_singleton_self _)
    · exact Or.inl (List.mem_filter.2 ⟨hother, by simpa using hsame⟩)

/-- The sources of all others than a package are the sources of the workspace without the pattern of
this package, unless that is shared. -/
theorem isSource_of_others_iff (hpackage : package ∈ workspace.packages) :
    (∃ other ∈ workspace.packages, other.name ≠ package.name ∧ other.glob = glob) ∨
        workspace.IsExternal glob ∨ glob = buildInfoPath ↔
      workspace.IsSource glob ∧ (glob = package.glob → workspace.IsShared package) := by
  constructor
  · rintro (⟨other, hother, hne, rfl⟩ | hexternal | hinfo)
    · exact ⟨Or.inl ⟨other, hother, rfl⟩, fun heq => Or.inl ⟨other, hother, hne, heq⟩⟩
    · exact ⟨Or.inr (Or.inl hexternal), fun heq => Or.inr (heq ▸ hexternal)⟩
    · refine ⟨Or.inr (Or.inr hinfo), fun heq => absurd (heq.symm.trans hinfo) ?_⟩
      exact sourceGlob_ne_buildInfoPath _
  · rintro ⟨⟨other, hother, rfl⟩ | hrest, hshared⟩
    · by_cases hsame : other.glob = package.glob
      · rw [hsame]
        exact (hshared hsame).imp_right Or.inl
      · -- A package with another pattern is another package.
        refine Or.inl ⟨other, hother, fun hname => hsame ?_, rfl⟩
        rw [workspace.eq_of_name_eq hother hpackage hname]
    · exact Or.inr hrest

end Collect

/-- The sources of a workspace are what its builds compile and its audits graph. -/
theorem exists_sourcesAgree : ∃ globs, workspace.SourcesAgree globs := by
  obtain ⟨globs, hglobs⟩ : ∃ globs, workspace.buildGlobs none false = .ok globs := ⟨_, rfl⟩
  have hsources : Enumerates globs workspace.IsSource := by
    cases hglobs
    exact (OrderedSet.enumerates_ofList _).congr fun glob => mem_collected_iff
  refine ⟨globs, hsources, ?whole, ?selected, ?audited, ?dependenciesOnly, ?unknown⟩
  case whole => exact fun _ => hglobs
  case selected =>
    intro package hpackage name hname
    obtain ⟨compiled, hcompiled, hall⟩ := exists_buildGlobs_some hpackage hname false
    -- Nothing is left out, so these are the sources too, and only one list enumerates them.
    have hsame : compiled = globs := by
      refine (hall.congr fun glob => ?_).unique hsources
      simp only [or_true, true_and, IsSource]
    rw [hcompiled, hsame]
  case audited =>
    exact fun package hpackage => (enumerates_auditGlobs hpackage).unique hsources
  case dependenciesOnly =>
    intro package hpackage name hname
    obtain ⟨others, hothers, hall⟩ := exists_buildGlobs_some hpackage hname true
    refine ⟨others, hothers, hall.congr fun glob => ?_⟩
    simp only [Bool.true_eq_false, or_false]
    rw [isSource_of_others_iff hpackage, hsources.mem_iff]
  case unknown =>
    intro name hlacks dependenciesOnly
    rw [buildGlobs, workspace.packageOf_of_lacks hlacks]
    rfl

-- The pattern of `app` stays for `tool`, which has the same one. That of `lib` is another text.
example :
    (buildGlobs {
      packages := [.make "app" "app" [] false, .make "lib" "./app/" [] false,
        .make "tool" "app/" [] false]
      dependencies := []
      root := .here
      names_nodup := by decide +kernel } (some " App ") true).toOption =
        some ["./app/src/**/*.purs", ".pedant/BuildInfo.purs", "app/src/**/*.purs"] := by
  decide +kernel

end Workspace

end BuildAudit
