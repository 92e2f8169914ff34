import BuildAudit.Proofs.Ownership.Precedence
import BuildAudit.Workspace.Sources

/-!
# Local packages before external ones

The directories of the external packages are listed before those of the workspace, so that a local
package is to win a root from all external packages that have it too, and from the local ones before
it. But owners are settled spelling by spelling, and a spelling keeps the place of its first
mention. The last local package with a root owns it just if its own spelling of the root is the
newest one, or if the newest one was last given to its name (`shadowsDependencies_iff`).
-/

namespace BuildAudit.Workspace

open Ownership

variable (workspace : Workspace)

/-- The roots of the external packages and then those of the workspace, with their packages. -/
def rootPairs : List (CodeText × String) :=
  workspace.dependencies.map
      (fun entry => (CodeText.ofString (sourceRoot entry.2), canonicalName entry.1)) ++
    workspace.packages.map fun package => (.ofString package.root, package.name)

theorem ownership_eq : workspace.ownership = .ofPairs workspace.rootPairs :=
  rfl

/-- The last package whose root is a directory. -/
def lastAt? (root : SourcePath) : Option Package :=
  (workspace.packages.filter (sourcePath ·.root = root)).getLast?

/-- Files whose longest root is that of a package belong to the last package with that root. -/
def ShadowsDependencies : Prop :=
  ∀ package ∈ workspace.packages, ∀ path,
    workspace.ownership.IsLongest path (sourcePath package.root) →
      ∃ last, workspace.lastAt? (sourcePath package.root) = some last ∧
        workspace.ownership.ownerOf? path = some last.name

/-- The packages of all roots have canonical names. -/
theorem canonical_of_mem_rootPairs {text : CodeText} {package : String}
    (h : (text, package) ∈ workspace.rootPairs) : canonicalName package = package := by
  rcases List.mem_append.1 h with h | h
  · obtain ⟨entry, -, hentry⟩ := List.mem_map.1 h
    cases hentry
    exact canonicalName_canonicalName entry.1
  · obtain ⟨member, -, hmember⟩ := List.mem_map.1 h
    cases hmember
    exact member.name_canonical

/-- The last package with a root stands before packages with other roots only. -/
theorem exists_append_of_lastAt? {root : SourcePath} {last : Package}
    (h : workspace.lastAt? root = some last) :
    ∃ before after, workspace.packages = before ++ last :: after ∧ sourcePath last.root = root ∧
      ∀ other ∈ after, sourcePath other.root ≠ root := by
  obtain ⟨others, hothers⟩ := List.getLast?_eq_some_iff.1 h
  obtain ⟨before, rest, hpackages, -, hrest⟩ := List.filter_eq_append_iff.1 hothers
  obtain ⟨between, after, rfl, -, hlast, hafter⟩ := List.filter_eq_cons_iff.1 hrest
  refine ⟨before ++ between, after, by rw [hpackages, List.append_assoc], ?_, ?_⟩
  · exact of_decide_eq_true hlast
  · intro other hother heq
    exact List.filter_eq_nil_iff.1 hafter other hother (decide_eq_true heq)

/-- A package has a last package with its root. -/
theorem exists_lastAt? {package : Package} (h : package ∈ workspace.packages) :
    ∃ last, workspace.lastAt? (sourcePath package.root) = some last := by
  have hmem : package ∈
      workspace.packages.filter (sourcePath ·.root = sourcePath package.root) :=
    List.mem_filter.2 ⟨h, decide_eq_true rfl⟩
  exact ⟨_, List.getLast?_eq_some_getLast (List.ne_nil_of_mem hmem)⟩

/-- The last package with a root is the last one of all with its own spelling of the root. -/
theorem isLast_of_lastAt? {root : SourcePath} {last : Package}
    (h : workspace.lastAt? root = some last) :
    Table.IsLast workspace.rootPairs last.root last.name := by
  obtain ⟨before, after, hpackages, rfl, hafter⟩ := workspace.exists_append_of_lastAt? h
  refine ⟨workspace.dependencies.map
      (fun entry => (CodeText.ofString (sourceRoot entry.2), canonicalName entry.1)) ++
    before.map fun package => (CodeText.ofString package.root, package.name),
    after.map fun package => (CodeText.ofString package.root, package.name), ?_, ?_⟩
  · rw [rootPairs, hpackages, List.map_append, List.map_cons, List.append_assoc]
  · rw [Table.keys, List.map_map, List.mem_map]
    rintro ⟨other, hother, heq⟩
    exact hafter other hother (congrArg sourcePath heq)

/-- The last package with the longest root around a file owns the file just if the newest spelling
of the root is its own or was last given to its name. -/
theorem ownerOf?_eq_last_iff {path : CodeText} {root : SourcePath} {last : Package}
    (hlongest : workspace.ownership.IsLongest path root)
    (hlast : workspace.lastAt? root = some last) :
    workspace.ownership.ownerOf? path = some last.name ↔
      ∀ text, newestSpelling? workspace.rootPairs root = some text →
        text = last.root ∨ Table.IsLast workspace.rootPairs text last.name := by
  -- A root is owned under its newest spelling, by the package that gave it last.
  have howns (owner : String) : (root, owner) ∈ workspace.ownership.roots ↔
      ∃ text, newestSpelling? workspace.rootPairs root = some text ∧
        Table.IsLast workspace.rootPairs text owner := by
    rw [ownership_eq, mem_roots_ofPairs_iff_newest]
    constructor
    · rintro ⟨text, package, htext, hpackage, rfl⟩
      rw [workspace.canonical_of_mem_rootPairs hpackage.mem]
      exact ⟨text, htext, hpackage⟩
    · rintro ⟨text, htext, howner⟩
      exact ⟨text, owner, htext, howner, workspace.canonical_of_mem_rootPairs howner.mem⟩
  rw [hlongest.ownerOf?_eq_some_iff, howns]
  constructor
  · rintro ⟨text, htext, hown⟩ other hother
    obtain rfl := Option.some.inj (htext.symm.trans hother)
    exact Or.inr hown
  · intro hnewest
    obtain ⟨⟨_, owner⟩, howner, rfl⟩ := List.mem_map.1 hlongest.owned
    obtain ⟨text, htext, -⟩ := (howns owner).1 howner
    refine ⟨text, htext, ?_⟩
    rcases hnewest text htext with rfl | hown
    · exact workspace.isLast_of_lastAt? hlast
    · exact hown

/-- Local packages win their roots from external packages, and the last of them from the others,
just if the newest spelling of each such root is that of the last local package with it, or was last
given to its name. -/
theorem shadowsDependencies_iff :
    workspace.ShadowsDependencies ↔
      ∀ root last, workspace.lastAt? root = some last →
        ∀ text, newestSpelling? workspace.rootPairs root = some text →
          text = last.root ∨ Table.IsLast workspace.rootPairs text last.name := by
  constructor
  · intro hshadows root last hlast
    obtain ⟨before, after, hpackages, rfl, -⟩ := workspace.exists_append_of_lastAt? hlast
    have hmem : last ∈ workspace.packages := by simp [hpackages]
    -- The root itself is a path whose longest root it is.
    have hself : workspace.ownership.IsLongest last.root (sourcePath last.root) := by
      have hpair : (CodeText.ofString last.root, last.name) ∈ workspace.rootPairs :=
        List.mem_append_right _ (List.mem_map_of_mem hmem)
      have howned := sourcePath_mem_roots_ofPairs hpair
      exact isLongest_self howned
    obtain ⟨found, hfound, howner⟩ := hshadows last hmem last.root hself
    obtain rfl := Option.some.inj (hlast.symm.trans hfound)
    exact (workspace.ownerOf?_eq_last_iff hself hlast).1 howner
  · intro hnewest package hpackage path hlongest
    obtain ⟨last, hlast⟩ := workspace.exists_lastAt? hpackage
    exact ⟨last, hlast, (workspace.ownerOf?_eq_last_iff hlongest hlast).2 (hnewest _ last hlast)⟩

/-- The workspace of `app` with two external packages in the same directory, which is spelled in the
way of `app` first and then in another one. -/
def overgrown : Workspace where
  packages := [.make "app" "app" [] false]
  dependencies := [("lib-a", "app"), ("lib-b", "./app")]
  root := .here
  names_nodup := List.nodup_singleton _

/-- The sources of `app` belong to an external package. -/
theorem not_shadowsDependencies_overgrown :
    overgrown.ownership.ownerOf? "app/src/Main.purs" = some "lib-b" ∧
      ¬ overgrown.ShadowsDependencies := by
  have hroots : overgrown.ownership.roots = [(sourcePath "app/src", "lib-b")] := by
    have hassigned : assignAll [] (Table.ofEntries overgrown.rootPairs) =
        [(sourcePath "app/src", "lib-b")] := by
      decide +kernel
    exact (congrArg (List.mergeSort · comesBefore) hassigned).trans (List.mergeSort_singleton _)
  have howner : overgrown.ownership.ownerOf? "app/src/Main.purs" = some "lib-b" := by
    rw [ownerOf?, hroots]
    decide +kernel
  refine ⟨howner, fun hshadows => ?_⟩
  have hlongest : overgrown.ownership.IsLongest "app/src/Main.purs" (sourcePath "app/src") := by
    constructor
    case owned => simp [hroots]
    case around => decide +kernel
    case deepest => simp [hroots]
  obtain ⟨last, hlast, hfound⟩ := hshadows (.make "app" "app" [] false) (.head _) _ hlongest
  -- The only package of the workspace is `app`.
  have happ : last ∈ overgrown.packages :=
    (List.mem_filter.1 (List.mem_of_getLast? hlast)).1
  rw [List.mem_singleton.1 happ, howner] at hfound
  revert hfound
  decide +kernel

end BuildAudit.Workspace
