import BuildAudit.Proofs.Build.Compiled
import BuildAudit.Proofs.Table
import BuildAudit.Workspace.Parse

/-!
# Configured sources

What a configuration lists under `dependencies` is kept under canonical names, so of entries whose
names have one canonical form only the last one is kept (`mem_dependencies_iff`). The directory of
an entry that is kept is part of every set of sources and has an owner (`includes_of_mem`). All
configured sources are kept just if no configuration is accepted in which names of external packages
collide (`keepsSources_iff`). The names of packages may not collide; those of external packages may,
and then a source is dropped without a word (`not_keepsSources_respelled`).
-/

namespace BuildAudit.Workspace

/-- What a configuration lists as external packages. -/
def configuredDependencies (config : Table Value) : Table Value :=
  ((config.get? "dependencies").bind Value.asTable?).getD []

/-- What a configuration lists as packages. -/
def configuredPackages (config : Table Value) : List Value :=
  (((config.get? "workspace").bind Value.asTable?).bind fun fields =>
    (fields.get? "packages").bind Value.asList?).getD []

/-- The name that is written in the entry of a package. -/
def configuredName? (entry : Value) : Option String :=
  (entry.asTable?.bind (·.get? "name")).bind Value.asString?

/-- The directory that is written in the entry of a package, or the one of the workspace. -/
def configuredPath (entry : Value) : String :=
  ((entry.asTable?.bind (·.get? "path")).getD (.string ".")).text

/-- A source directory is part of all sets of sources and has an owner. -/
structure Includes (workspace : Workspace) (directory : String) : Prop where
  /-- It is among the sources of external packages. -/
  dependencies : sourceGlob directory ∈ workspace.dependencyGlobs
  /-- It is compiled by all builds, whose selected package must be known. -/
  builds : ∀ selected? dependenciesOnly,
    (∀ name, selected? = some name → ¬ workspace.Lacks name) →
      ∃ globs, workspace.buildGlobs selected? dependenciesOnly = .ok globs ∧
        sourceGlob directory ∈ globs
  /-- It is graphed by all audits. -/
  audits : ∀ package, sourceGlob directory ∈ workspace.auditGlobs package
  /-- Its directory of modules has an owner. -/
  owned : sourcePath (sourceRoot directory) ∈ workspace.ownedRoots

/-- No source that a configuration lists is dropped, and names that collide are refused. -/
structure KeepsSources (config : Table Value) (root : PosixPath) (source? : Option String) :
    Prop where
  /-- All external packages are included. -/
  dependencies : ∀ workspace, ofConfig config root source? = .ok workspace →
    ∀ entry ∈ configuredDependencies config, ∃ directory, entry.2 = .string directory ∧
      workspace.Includes directory
  /-- All packages are compiled by builds without a selected one. -/
  packages : ∀ workspace, ofConfig config root source? = .ok workspace →
    ∀ entry ∈ configuredPackages config, ∀ dependenciesOnly,
      ∃ globs, workspace.buildGlobs none dependenciesOnly = .ok globs ∧
        sourceGlob (configuredPath entry) ∈ globs
  /-- Packages with one canonical name are refused. -/
  packageNames :
    ¬ (((configuredPackages config).filterMap configuredName?).map canonicalName).Nodup →
      ∃ failure, ofConfig config root source? = .error failure
  /-- External packages with one canonical name are refused. -/
  dependencyNames : ¬ ((configuredDependencies config).keys.map canonicalName).Nodup →
    ∃ failure, ofConfig config root source? = .error failure

section Reading

variable {config : Table Value} {root : PosixPath} {source? : Option String}

/-- The entries of packages that are read are those of the configuration. -/
theorem eq_configuredPackages {entries : List Value}
    (h : packageEntries source? config = .ok entries) : entries = configuredPackages config := by
  rw [configuredPackages]
  -- A key that is missing stands for an empty table or list, for the reader and for the
  -- specification.
  unfold packageEntries at h
  dsimp only at h
  rcases hworkspace : config.get? "workspace" with _ | workspace
  · rw [hworkspace] at h
    cases h
    rfl
  · rw [hworkspace, Option.getD_some] at h
    split at h
    · cases h
    · next fields hfields =>
      rw [Option.bind_some, hfields, Option.bind_some]
      rcases hpackages : Table.get? fields "packages" with _ | packages
      · rw [hpackages] at h
        cases h
        rfl
      · rw [hpackages, Option.getD_some] at h
        split at h
        · cases h
        · next items hitems =>
          cases h
          rw [Option.bind_some, hitems, Option.getD_some]

/-- A package that is read has the name and the directory of its entry. -/
theorem configured_of_readPackage {entry : Value} {package : Package}
    (h : readPackage source? entry = .ok package) :
    (configuredName? entry).map canonicalName = some package.name ∧
      configuredPath entry = package.path := by
  unfold readPackage at h
  split at h
  · next fields =>
    split at h
    · cases h
    · next name hname =>
      dsimp only at h
      split at h
      · cases h
      · split at h
        · cases h
        · cases h
          refine ⟨?_, rfl⟩
          rw [configuredName?, Value.asTable?, Option.bind_some, hname, Option.map_some,
            Package.make]
  · cases h

/-- Directories are read just if they are what the configuration lists, or if it lists none. -/
theorem readDependencies_eq_ok_iff {directories : Table String} :
    readDependencies source? config = .ok directories ↔
      config.get? "dependencies" =
          some (.table (directories.map fun entry => (entry.1, .string entry.2))) ∨
        config.get? "dependencies" = none ∧ directories = [] := by
  -- A value is a directory just if it is a text, and the directories just if all values are.
  have hentry (entry : String × Value) (directory : String × String) :
      (entry.2.asString?).map (entry.1, ·) = some directory ↔
        entry = (directory.1, .string directory.2) := by
    obtain ⟨name, value⟩ := entry
    obtain ⟨name', text⟩ := directory
    cases value <;> simp [Value.asString?]
  have hread (value : Value) :
      (value.asTable?.bind (·.mapM fun entry => (entry.2.asString?).map (entry.1, ·))) =
          some directories ↔
        value = .table (directories.map fun entry => (entry.1, .string entry.2)) := by
    cases value with
    | table entries =>
      rw [Value.asTable?, Option.bind_some, mapM_eq_some_iff hentry, Value.table.injEq]
    | _ => simp [Value.asTable?]
  unfold readDependencies
  dsimp only
  rcases config.get? "dependencies" with _ | value
  · cases directories <;> simp [Value.asTable?, eq_comm]
  · have hheld := hread value
    rw [Option.getD_some]
    split
    · next hnone =>
      rw [hnone] at hheld
      simpa using hheld
    · next read hsome =>
      rw [hsome] at hheld
      simpa using hheld

/-- The directories that are read are those of the configuration. -/
theorem configuredDependencies_eq {directories : Table String}
    (h : readDependencies source? config = .ok directories) :
    configuredDependencies config = directories.map fun entry => (entry.1, .string entry.2) := by
  rw [configuredDependencies]
  rcases readDependencies_eq_ok_iff.1 h with hlisted | ⟨hlisted, rfl⟩
  · rw [hlisted]
    rfl
  · rw [hlisted]
    rfl

/-- A workspace that is accepted has what is read for its parts. -/
theorem parts_of_ofConfig {workspace : Workspace}
    (h : ofConfig config root source? = .ok workspace) :
    (configuredPackages config).mapM (readPackage source?) = .ok workspace.packages ∧
      ∃ directories, readDependencies source? config = .ok directories ∧
        workspace.dependencies =
          Table.ofEntries (directories.map fun entry => (canonicalName entry.1, entry.2)) := by
  simp only [ofConfig, bind_eq_ok_iff, mapError_eq_ok_iff] at h
  obtain ⟨entries, hentries, packages, hpackages, directories, hdirectories, hmake⟩ := h
  rw [eq_configuredPackages hentries] at hpackages
  rw [make] at hmake
  split at hmake
  · cases hmake
    exact ⟨hpackages, directories, hdirectories, rfl⟩
  · cases hmake

/-- A workspace that is accepted has the packages of its configuration, and the external packages
under canonical names, given one after the other. -/
theorem configured_of_ofConfig {workspace : Workspace}
    (h : ofConfig config root source? = .ok workspace) :
    (configuredPackages config).map
        (fun entry => ((configuredName? entry).map canonicalName, configuredPath entry)) =
      workspace.packages.map (fun package => (some package.name, package.path)) ∧
    ∃ directories : Table String,
      configuredDependencies config = directories.map (fun entry => (entry.1, .string entry.2)) ∧
      workspace.dependencies =
        Table.ofEntries (directories.map fun entry => (canonicalName entry.1, entry.2)) := by
  obtain ⟨hpackages, directories, hdirectories, hkept⟩ := parts_of_ofConfig h
  refine ⟨?_, directories, configuredDependencies_eq hdirectories, hkept⟩
  refine map_eq_of_mapM_eq_ok (fun entry package hread => ?_) hpackages
  obtain ⟨hname, hpath⟩ := configured_of_readPackage hread
  rw [hname, hpath]

/-- Of entries of external packages with one canonical name the last one is kept. -/
theorem mem_dependencies_iff {workspace : Workspace}
    (h : ofConfig config root source? = .ok workspace) {name directory : String} :
    (name, directory) ∈ workspace.dependencies ↔
      ∃ before spelled after,
        configuredDependencies config = before ++ (spelled, .string directory) :: after ∧
          canonicalName spelled = name ∧ name ∉ (Table.keys after).map canonicalName := by
  obtain ⟨-, directories, hlisted, hkept⟩ := configured_of_ofConfig h
  rw [hkept, Table.mem_ofEntries_iff, hlisted]
  constructor
  · rintro ⟨before, after, heq, hafter⟩
    obtain ⟨before', rest, rfl, rfl, hrest⟩ := List.map_eq_append_iff.1 heq
    obtain ⟨⟨spelled, text⟩, after', rfl, hentry, rfl⟩ := List.map_eq_cons_iff.1 hrest
    cases hentry
    refine ⟨_, spelled, _, by rw [List.map_append, List.map_cons], rfl, ?_⟩
    simp only [Table.keys, List.map_map] at hafter ⊢
    exact hafter
  · rintro ⟨before, spelled, after, heq, rfl, hafter⟩
    obtain ⟨before', rest, rfl, rfl, hrest⟩ := List.map_eq_append_iff.1 heq
    obtain ⟨⟨spelled', text⟩, after', rfl, hentry, rfl⟩ := List.map_eq_cons_iff.1 hrest
    cases hentry
    refine ⟨_, _, by rw [List.map_append, List.map_cons], ?_⟩
    simp only [Table.keys, List.map_map] at hafter ⊢
    exact hafter

/-- The canonical names that are written in entries are those of the packages that are read. -/
theorem map_canonicalName_eq {entries : List Value} {packages : List Package}
    (h : entries.mapM (readPackage source?) = .ok packages) :
    (entries.filterMap configuredName?).map canonicalName = packages.map (·.name) := by
  have hnames : entries.map (fun entry => (configuredName? entry).map canonicalName) =
      packages.map fun package => some package.name :=
    map_eq_of_mapM_eq_ok (fun _ _ hread => (configured_of_readPackage hread).1) h
  -- Every entry has a name, for else it would not have been read.
  have hpresent := congrArg (List.filterMap id) hnames
  rw [List.filterMap_map, List.filterMap_map] at hpresent
  rw [List.map_filterMap]
  exact hpresent.trans (congrFun List.filterMap_eq_map' _)

/-- The canonical names that are written for the packages are those of the packages. -/
theorem map_configuredName {workspace : Workspace}
    (h : ofConfig config root source? = .ok workspace) :
    ((configuredPackages config).filterMap configuredName?).map canonicalName =
      workspace.packages.map (·.name) :=
  map_canonicalName_eq (parts_of_ofConfig h).1

end Reading

/-- All builds compile the sources of the external packages. -/
theorem mem_buildGlobs_of_mem_dependencyGlobs {workspace : Workspace} {selected? : Option String}
    {dependenciesOnly : Bool} {globs : NameSet}
    (h : workspace.buildGlobs selected? dependenciesOnly = .ok globs) {glob : String}
    (hglob : glob ∈ workspace.dependencyGlobs) : glob ∈ globs := by
  cases selected? with
  | none =>
    cases h
    exact OrderedSet.mem_ofList.2 (List.mem_append_left _ hglob)
  | some name =>
    unfold buildGlobs at h
    obtain ⟨package, -, hall⟩ := bind_eq_ok_iff.1 h
    cases hall
    exact OrderedSet.mem_ofList.2 (List.mem_append_left _ hglob)

/-- The directory of an external package that is kept is part of all sets of sources and has an
owner. -/
theorem includes_of_mem {workspace : Workspace} {entry : String × String}
    (h : entry ∈ workspace.dependencies) : workspace.Includes entry.2 := by
  have hglob : sourceGlob entry.2 ∈ workspace.dependencyGlobs :=
    OrderedSet.mem_ofList.2 (List.mem_map.2 ⟨entry.2, List.mem_map.2 ⟨entry, h, rfl⟩, rfl⟩)
  constructor
  case dependencies => exact hglob
  case builds =>
    intro selected? dependenciesOnly hselected
    obtain ⟨globs, hglobs⟩ := workspace.exists_buildGlobs hselected dependenciesOnly
    exact ⟨globs, hglobs, mem_buildGlobs_of_mem_dependencyGlobs hglobs hglob⟩
  case audits =>
    intro package
    rw [auditGlobs, List.append_assoc]
    exact OrderedSet.mem_ofList.2 (List.mem_append_left _ hglob)
  case owned =>
    refine workspace.mem_ownedRoots_iff.2 ⟨sourceRoot entry.2, ?_, rfl⟩
    exact ⟨canonicalName entry.1, entry.2, Or.inr ⟨entry, h, rfl, rfl⟩, rfl⟩

/-- All configured sources are kept just if no configuration is accepted in which names of external
packages collide. -/
theorem keepsSources_iff (config : Table Value) (root : PosixPath) (source? : Option String) :
    KeepsSources config root source? ↔
      ∀ workspace, ofConfig config root source? = .ok workspace →
        ((configuredDependencies config).keys.map canonicalName).Nodup := by
  constructor
  · intro hkeeps workspace hworkspace
    by_contra hcollide
    obtain ⟨failure, hfailure⟩ := hkeeps.dependencyNames hcollide
    cases hworkspace.symm.trans hfailure
  · intro hdistinct
    constructor
    case dependencies =>
      intro workspace hworkspace entry hentry
      obtain ⟨-, directories, hlisted, -⟩ := configured_of_ofConfig hworkspace
      have hmem := hentry
      rw [hlisted] at hmem
      obtain ⟨⟨spelled, directory⟩, -, rfl⟩ := List.mem_map.1 hmem
      -- With distinct names every entry is the last one with its name.
      obtain ⟨before, after, heq⟩ := List.append_of_mem hentry
      have hlast : canonicalName spelled ∉ (Table.keys after).map canonicalName := by
        have hnames := hdistinct workspace hworkspace
        rw [heq, Table.keys, List.map_append, List.map_cons, List.map_append, List.map_cons]
          at hnames
        exact (List.nodup_cons.1 (List.nodup_append.1 hnames).2.1).1
      have hkept : (canonicalName spelled, directory) ∈ workspace.dependencies :=
        (mem_dependencies_iff hworkspace).2 ⟨before, spelled, after, heq, rfl, hlast⟩
      exact ⟨directory, rfl, includes_of_mem hkept⟩
    case packages =>
      intro workspace hworkspace entry hentry dependenciesOnly
      obtain ⟨hpackages, -⟩ := configured_of_ofConfig hworkspace
      have hmem := List.mem_map_of_mem
        (f := fun entry => ((configuredName? entry).map canonicalName, configuredPath entry)) hentry
      rw [hpackages] at hmem
      obtain ⟨package, hpackage, hsame⟩ := List.mem_map.1 hmem
      obtain ⟨globs, hglobs⟩ : ∃ globs, workspace.buildGlobs none dependenciesOnly = .ok globs :=
        ⟨_, rfl⟩
      refine ⟨globs, hglobs, (workspace.mem_buildGlobs_none hglobs).2 (Or.inr ?_)⟩
      refine ⟨sourceRoot package.path, ?_, ?_⟩
      · exact ⟨package.name, package.path, Or.inl ⟨package, hpackage, rfl, rfl⟩, rfl⟩
      · rw [← (Prod.mk.inj hsame).2, sourceGlob_eq]
    case packageNames =>
      intro hcollide
      rcases hworkspace : ofConfig config root source? with failure | workspace
      · exact ⟨failure, rfl⟩
      · rw [map_configuredName hworkspace] at hcollide
        exact absurd workspace.names_nodup hcollide
    case dependencyNames =>
      intro hcollide
      rcases hworkspace : ofConfig config root source? with failure | workspace
      · exact ⟨failure, rfl⟩
      · exact absurd (hdistinct workspace hworkspace) hcollide

/-- A configuration that lists an external package in two spellings, with two directories. -/
def respelled : Table Value :=
  [("dependencies", .table [("Lib-A", .string ".pedant/p/lib-a-1"),
    ("lib-a", .string ".pedant/p/lib-a-2")])]

/-- The configuration is accepted, and the directory that is written first is in no set of
sources. -/
theorem not_keepsSources_respelled :
    (∃ workspace, ofConfig respelled .here none = .ok workspace ∧
      workspace.dependencies = [("lib-a", ".pedant/p/lib-a-2")] ∧
      ¬ workspace.Includes ".pedant/p/lib-a-1") ∧ ¬ KeepsSources respelled .here none := by
  have hread : (ofConfig respelled .here none).toOption.map (·.dependencies) =
      some [("lib-a", ".pedant/p/lib-a-2")] := by
    decide +kernel
  obtain ⟨workspace, hworkspace, hdependencies⟩ := Option.map_eq_some_iff.1 hread
  rw [toOption_eq_some_iff] at hworkspace
  have hdropped : ¬ workspace.Includes ".pedant/p/lib-a-1" := by
    intro hincludes
    have hglob := hincludes.dependencies
    rw [dependencyGlobs, hdependencies] at hglob
    revert hglob
    decide +kernel
  refine ⟨⟨workspace, hworkspace, hdependencies, hdropped⟩, fun hkeeps => ?_⟩
  obtain ⟨directory, hdirectory, hincludes⟩ :=
    hkeeps.dependencies workspace hworkspace ("Lib-A", .string ".pedant/p/lib-a-1") (.head _)
  cases hdirectory
  exact hdropped hincludes

end BuildAudit.Workspace
