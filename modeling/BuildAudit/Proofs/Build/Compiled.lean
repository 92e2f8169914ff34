import BuildAudit.Proofs.Graph.Decode
import BuildAudit.Proofs.SourcePath
import BuildAudit.Proofs.Workspace

/-!
# Compiled sources have owners

The patterns of a build are texts that are made of directories, while owners are found by comparing
the names in paths. Both start from the same directories of modules (`mem_buildGlobs_none`,
`mem_ownedRoots_iff`), so each file below a directory that is compiled has an owner, and no module
that is compiled is left out of an import graph, nor is an import between two of them
(`exists_ownsCompiled`).
-/

namespace BuildAudit.Workspace

variable (workspace : Workspace)

/-- A package or an external package of this name lies in this directory. -/
def Places (name directory : String) : Prop :=
  (∃ package ∈ workspace.packages, package.name = name ∧ package.path = directory) ∨
    ∃ entry ∈ workspace.dependencies, canonicalName entry.1 = name ∧ entry.2 = directory

/-- The modules of a package or of an external package are kept in this directory. -/
def HasRoot (root : String) : Prop :=
  ∃ name directory, workspace.Places name directory ∧ root = sourceRoot directory

/-- The directories that have owners. -/
def ownedRoots : List SourcePath :=
  workspace.ownership.roots.map (·.1)

/-- A path is spelled as one below a directory whose files are compiled. -/
def IsCompiled (globs : NameSet) (path : CodeText) : Prop :=
  ∃ (root : String) (below : CodeText), filesBelow root ∈ globs ∧ path = root ++ "/" ++ below

/-- The owners of files go with the patterns of a build. -/
structure OwnsCompiled (globs : NameSet) : Prop where
  /-- A pattern is that of the files below a directory of modules, or else the module with the build
  information. -/
  patterns : ∀ glob ∈ globs, glob ≠ buildInfoPath →
    ∃ root, workspace.HasRoot root ∧ glob = filesBelow root
  /-- The files below every directory of modules are compiled. -/
  roots : ∀ root, workspace.HasRoot root → filesBelow root ∈ globs
  /-- The directories that have owners are the directories of modules. -/
  ownedRoots : ∀ path, path ∈ workspace.ownedRoots ↔
    ∃ root, workspace.HasRoot root ∧ sourcePath root = path
  /-- A file below a directory that is compiled has an owner, and a directory of that owner contains
  the file and is at least as deep. -/
  owned : ∀ root, filesBelow root ∈ globs → ∀ below : CodeText, ∃ name directory,
    workspace.ownership.ownerOf? (root ++ "/" ++ below) = some name ∧
      workspace.Places name directory ∧
      (sourcePath (sourceRoot directory)).contains (sourcePath (root ++ "/" ++ below)) = true ∧
      (sourcePath root).depth ≤ (sourcePath (sourceRoot directory)).depth
  /-- An object of modules is read to a graph that has the owners of all modules which are compiled,
  and all imports between such modules. -/
  kept : ∀ entries : JsonObject, entries.keys.Nodup → IsModuleListing entries →
    ∃ graph, (ImportGraph.ofValue workspace.ownership (.table entries)).2 = .ok graph ∧
      (∀ module entry, ListsModule entries module entry → IsCompiled globs entry.path →
        ∃ name, workspace.ownership.ownerOf? entry.path = some name ∧
          graph.ownerOf? module = some name) ∧
      ∀ module entry target other,
        ListsModule entries module entry → IsCompiled globs entry.path →
        ListsModule entries target other → IsCompiled globs other.path →
        target ∈ entry.imports → { source := module, target } ∈ graph.edges

section Places

variable {workspace} {name directory : String}

/-- The directory of modules of a package and its name are one of the pairs that owners are made
of. -/
theorem Places.mem_pairs (h : workspace.Places name directory) :
    (.ofString (sourceRoot directory), name) ∈
      workspace.dependencies.map
          (fun entry => (CodeText.ofString (sourceRoot entry.2), canonicalName entry.1)) ++
        workspace.packages.map fun package => (.ofString package.root, package.name) := by
  rcases h with ⟨package, hpackage, rfl, rfl⟩ | ⟨entry, hentry, rfl, rfl⟩
  · exact List.mem_append_right _ (List.mem_map.2 ⟨package, hpackage, rfl⟩)
  · exact List.mem_append_left _ (List.mem_map.2 ⟨entry, hentry, rfl⟩)

end Places

/-- The owner of a directory has it as its directory of modules. -/
theorem exists_places_of_mem_roots {entry : SourcePath × String}
    (h : entry ∈ workspace.ownership.roots) :
    ∃ directory, workspace.Places entry.2 directory ∧
      entry.1 = sourcePath (sourceRoot directory) := by
  obtain ⟨pair, hpair, rfl⟩ := Ownership.exists_of_mem_roots_ofPairs h
  rcases List.mem_append.1 hpair with hdependency | hpackage
  · obtain ⟨dependency, hmem, rfl⟩ := List.mem_map.1 hdependency
    refine ⟨dependency.2, Or.inr ⟨dependency, hmem, ?_, rfl⟩, rfl⟩
    exact (canonicalName_canonicalName dependency.1).symm
  · obtain ⟨package, hmem, rfl⟩ := List.mem_map.1 hpackage
    refine ⟨package.path, Or.inl ⟨package, hmem, ?_, rfl⟩, rfl⟩
    exact package.name_canonical.symm

/-- The directories that have owners are the directories of modules. -/
theorem mem_ownedRoots_iff {path : SourcePath} :
    path ∈ workspace.ownedRoots ↔ ∃ root, workspace.HasRoot root ∧ sourcePath root = path := by
  constructor
  · intro h
    obtain ⟨entry, hentry, rfl⟩ := List.mem_map.1 h
    obtain ⟨directory, hplaces, heq⟩ := workspace.exists_places_of_mem_roots hentry
    exact ⟨sourceRoot directory, ⟨entry.2, directory, hplaces, rfl⟩, heq.symm⟩
  · rintro ⟨root, ⟨name, directory, hplaces, rfl⟩, rfl⟩
    have hmem := Ownership.sourcePath_mem_roots_ofPairs hplaces.mem_pairs
    exact hmem

/-- The patterns of a build without a selected package are those of all directories of modules, with
the module with the build information. -/
theorem mem_buildGlobs_none {dependenciesOnly : Bool} {globs : NameSet}
    (h : workspace.buildGlobs none dependenciesOnly = .ok globs) {glob : String} :
    glob ∈ globs ↔
      glob = buildInfoPath ∨ ∃ root, workspace.HasRoot root ∧ glob = filesBelow root := by
  cases h
  simp only [OrderedSet.mem_ofList, dependencyGlobs, List.mem_append, List.mem_cons, Table.values,
    List.map_map, List.mem_map, Function.comp_apply, sourceGlob_eq]
  constructor
  · rintro (⟨entry, hentry, rfl⟩ | rfl | ⟨package, hpackage, rfl⟩)
    · exact Or.inr ⟨_, ⟨_, entry.2, Or.inr ⟨entry, hentry, rfl, rfl⟩, rfl⟩, rfl⟩
    · exact Or.inl rfl
    · exact Or.inr ⟨_, ⟨_, package.path, Or.inl ⟨package, hpackage, rfl, rfl⟩, rfl⟩,
        sourceGlob_eq package.path⟩
  · rintro (rfl | ⟨root, ⟨name, directory, hplaces, rfl⟩, rfl⟩)
    · exact Or.inr (Or.inl rfl)
    · rcases hplaces with ⟨package, hpackage, rfl, rfl⟩ | ⟨entry, hentry, rfl, rfl⟩
      · exact Or.inr (Or.inr ⟨package, hpackage, sourceGlob_eq package.path⟩)
      · exact Or.inl ⟨entry, hentry, rfl⟩

/-- A file below a directory of modules has an owner with a directory around the file that is at
least as deep. -/
theorem exists_owner_below {root : String} (h : workspace.HasRoot root) (below : CodeText) :
    ∃ name directory, workspace.ownership.ownerOf? (root ++ "/" ++ below) = some name ∧
      workspace.Places name directory ∧
      (sourcePath (sourceRoot directory)).contains (sourcePath (root ++ "/" ++ below)) = true ∧
      (sourcePath root).depth ≤ (sourcePath (sourceRoot directory)).depth := by
  have hroot : sourcePath root ∈ workspace.ownedRoots :=
    workspace.mem_ownedRoots_iff.2 ⟨root, h, rfl⟩
  have hcontains : (sourcePath root).contains (sourcePath (root ++ "/" ++ below)) = true := by
    obtain ⟨name, directory, -, rfl⟩ := h
    exact contains_sourceRoot directory below
  obtain ⟨owner, found, howner, hfound, hholds, hdepth⟩ :=
    workspace.ownership.exists_ownerOf? hroot hcontains
  obtain ⟨directory, hplaces, rfl⟩ := workspace.exists_places_of_mem_roots hfound
  exact ⟨owner, directory, howner, hplaces, hholds, hdepth⟩

/-- Owners go with the patterns of every build without a selected package. -/
theorem exists_ownsCompiled (dependenciesOnly : Bool) :
    ∃ globs, workspace.buildGlobs none dependenciesOnly = .ok globs ∧
      workspace.OwnsCompiled globs := by
  obtain ⟨globs, hglobs⟩ : ∃ globs, workspace.buildGlobs none dependenciesOnly = .ok globs :=
    ⟨_, rfl⟩
  -- Only a directory of modules is compiled.
  have hroot {root : String} : filesBelow root ∈ globs ↔ workspace.HasRoot root := by
    rw [workspace.mem_buildGlobs_none hglobs]
    simp [filesBelow_ne_buildInfoPath, filesBelow_inj]
  have howned (path : CodeText) (h : IsCompiled globs path) :
      ∃ name, workspace.ownership.ownerOf? path = some name := by
    obtain ⟨root, below, hcompiled, rfl⟩ := h
    obtain ⟨name, -, howner, -⟩ := workspace.exists_owner_below (hroot.1 hcompiled) below
    exact ⟨name, howner⟩
  refine ⟨globs, hglobs, ⟨?patterns, ?roots, ?ownedRoots, ?owned, ?kept⟩⟩
  case patterns =>
    intro glob hglob hinfo
    exact ((workspace.mem_buildGlobs_none hglobs).1 hglob).resolve_left hinfo
  case roots => exact fun root => hroot.2
  case ownedRoots => exact fun path => workspace.mem_ownedRoots_iff
  case owned => exact fun root hcompiled => workspace.exists_owner_below (hroot.1 hcompiled)
  case kept =>
    intro entries hkeys hlisting
    obtain ⟨graph, hgraph, howner, hedges⟩ :=
      ImportGraph.exists_ofValue workspace.ownership hkeys hlisting
    -- A module whose path has an owner belongs to it in the graph.
    have howns {module : CodeText} {entry : ModuleEntry} (hlists : ListsModule entries module entry)
        (hcompiled : IsCompiled globs entry.path) :
        ∃ name, workspace.ownership.ownerOf? entry.path = some name ∧
          (listing workspace.ownership entries).owns name module := by
      obtain ⟨name, hname⟩ := howned entry.path hcompiled
      exact ⟨name, hname, entry, hlists, workspace.ownership.isOwner_of_ownerOf? hname⟩
    refine ⟨graph, hgraph, fun module entry hlists hcompiled => ?_, ?_⟩
    · obtain ⟨name, hname, hown⟩ := howns hlists hcompiled
      exact ⟨name, hname, (howner module name).2 hown⟩
    · intro module entry target other hlists hcompiled hother hcompiled' htarget
      obtain ⟨name, -, hown⟩ := howns hlists hcompiled
      obtain ⟨name', -, hown'⟩ := howns hother hcompiled'
      exact (hedges module target).2 ⟨⟨entry, hlists, htarget⟩, ⟨name, hown⟩, name', hown'⟩

end BuildAudit.Workspace
