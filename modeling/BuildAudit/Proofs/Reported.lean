import BuildAudit.Proofs.Settings.Typed
import BuildAudit.Workspace.Load

/-!
# Failures that are reported

A configuration may be wrong in many ways, and each of them has a fault of its own, which the
program reports. So does a file that is missing or cannot be read. The one failure of loading that
is no fault comes from asking whether there is anything at a path: a path that is too long cannot be
asked for. One within the limits always can (`FileTree.not_isTooLong`).

Settings are loaded, or it is reported why they are not, just if no path that is asked for on the
way is too long (`reports_loadSettings_iff`), and so is a workspace (`Workspace.reports_load_iff`).
Both together are `Surroundings.reportsLoading_iff`.

Messages quote values, so values are taken to be such that they can be written.
-/

namespace BuildAudit

section Reports

variable {α β : Type}

/-- What goes wrong is reported. -/
def Reports (outcome : Except Failure α) : Prop :=
  ∀ failure, outcome = .error failure → ∃ fault, failure = .fault fault

@[simp]
theorem reports_ok (result : α) : Reports (.ok result) := nofun

@[simp]
theorem reports_pure (result : α) : Reports (pure result : Except Failure α) := nofun

@[simp]
theorem reports_error_iff {failure : Failure} :
    Reports (.error failure : Except Failure α) ↔ ∃ fault, failure = .fault fault := by
  simp [Reports]

/-- A sequence reports what goes wrong just if its first step does, and the second one does after a
first one that succeeds. -/
theorem reports_bind_iff {first : Except Failure α} {next : α → Except Failure β} :
    Reports (first >>= next) ↔
      Reports first ∧ ∀ result, first = .ok result → Reports (next result) := by
  cases first with
  | error failure => simp [Reports, bind, Except.bind]
  | ok result => simp [Reports, bind, Except.bind]

/-- Doing the same for all items of a list reports what goes wrong if it does for each item. -/
theorem reports_mapM {step : α → Except Failure β} {items : List α}
    (h : ∀ item ∈ items, Reports (step item)) : Reports (items.mapM step) := by
  induction items with
  | nil => simp
  | cons item rest ih =>
    rw [List.mapM_cons, reports_bind_iff]
    refine ⟨h item (.head _), fun result _ => ?_⟩
    rw [reports_bind_iff]
    exact ⟨ih fun other hother => h other (.tail _ hother), fun results _ => reports_pure _⟩

/-- A failure that is worded as a fault is reported. -/
theorem reports_mapError {ε : Type} {result : Except ε α} {reword : ε → Failure}
    (h : ∀ cause, ∃ fault, reword cause = .fault fault) : Reports (result.mapError reword) := by
  intro failure hfailure
  obtain ⟨cause, -, rfl⟩ := mapError_eq_error_iff.1 hfailure
  exact h cause

/-- What is wrong with a file is not reported. -/
theorem reports_mapError_file_iff {result : Except FileFault α} :
    Reports (result.mapError .file) ↔ result.isOk = true := by
  cases result with
  | error fault => simp [Except.mapError, Except.isOk, Except.toBool]
  | ok value => simp [Except.mapError, Except.isOk, Except.toBool]

end Reports

namespace Value

/-- The values of a table that can be written can be written. -/
theorem isUnwritable_of_get? {entries : Table Value} {key : String} {value : Value}
    (h : (Value.table entries).isUnwritable = false) (hget : entries.get? key = some value) :
    value.isUnwritable = false := by
  rw [Bool.eq_false_iff]
  intro hvalue
  have htable := isUnwritable_table_of_mem (Table.mem_of_get? hget) hvalue
  rw [h] at htable
  cases htable

/-- So can a standard value for one that is not there. -/
theorem isUnwritable_getD {entries : Table Value} {key : String} {standard : Value}
    (h : (Value.table entries).isUnwritable = false) (hstandard : standard.isUnwritable = false) :
    ((entries.get? key).getD standard).isUnwritable = false := by
  cases hget : entries.get? key with
  | none => exact hstandard
  | some value => exact isUnwritable_of_get? h hget

/-- The items of a list that can be written can be written. -/
theorem isUnwritable_of_mem_list {items : List Value} {item : Value}
    (h : (Value.list items).isUnwritable = false) (hitem : item ∈ items) :
    item.isUnwritable = false := by
  rw [isUnwritable] at h
  induction items with
  | nil => cases hitem
  | cons first rest ih =>
    rw [hasUnwritableItem, Bool.or_eq_false_iff] at h
    rcases List.mem_cons.1 hitem with rfl | hrest
    · exact h.1
    · exact ih h.2 hrest

end Value

/-- A wrong part of a configuration is reported if its value can be written. -/
theorem Failure.exists_fault_invalid {value : Value} (h : value.isUnwritable = false)
    (key reason : String) (source? : Option String) :
    ∃ fault, invalid key value reason source? = .fault fault :=
  (invalid_cases key value reason source?).resolve_right fun hlong => by
    rw [h] at hlong
    exact Bool.false_ne_true hlong.2

namespace FileTree

variable (files : FileTree)

/-- A path, or a name on it that is looked up, is too long. -/
def IsTooLong (path : PosixPath) : Prop :=
  files.find path = .error .tooLong

/-- The values of all configuration files can be written. -/
def HoldsWritable : Prop :=
  ∀ entry ∈ files.nodes, ∀ content table, entry.2 = .file content →
    Toml.readOctets content = .ok table → (Value.table table).isUnwritable = false

variable {files} {path : PosixPath}

/-- There is an answer to what stands at a path unless the path is too long. -/
theorem isOk_find?_iff : (files.find? path).isOk = true ↔ ¬ files.IsTooLong path := by
  unfold find? IsTooLong
  split
  · next h => simp [h, Except.isOk, Except.toBool]
  · next h => simp [h, Except.isOk, Except.toBool]
  · next fault hne h => simpa [h, Except.isOk, Except.toBool] using hne

/-- A way along names that are short enough is not cut off by a name. -/
theorem follow_ne_tooLong {names : List String} (h : ∀ name ∈ names, name.utf8ByteSize ≤ maxName)
    (place : Place) : files.follow place names ≠ .error .tooLong := by
  induction names generalizing place with
  | nil =>
    intro hfollow
    cases hfollow
  | cons name rest ih =>
    obtain ⟨hname, hrest⟩ := List.forall_mem_cons.1 h
    rw [follow]
    split
    · intro hfollow
      cases hfollow
    · intro hfollow
      cases hfollow
    · rw [if_neg (Nat.not_lt.2 hname)]
      split
      · exact ih hrest _
      · exact ih hrest _

/-- A path within the limits is not too long, wherever it leads. -/
theorem not_isTooLong (hpath : path.text.utf8ByteSize ≤ maxPath)
    (hnames : ∀ name ∈ path.names, name.utf8ByteSize ≤ maxName) : ¬ files.IsTooLong path := by
  have hplace : files.placeOf path ≠ .error .tooLong := by
    rw [placeOf, if_neg (Nat.not_lt.2 hpath)]
    exact follow_ne_tooLong hnames _
  intro h
  rw [IsTooLong, find] at h
  rcases hfound : files.placeOf path with fault | place
  · rw [hfound] at h hplace
    obtain rfl : fault = .tooLong := Except.error.inj h
    exact hplace rfl
  · rw [hfound] at h
    cases hnode : files.node? place <;> simp [hnode, bind, Except.bind] at h

/-- What is read stands in a file. -/
theorem exists_of_readConfig {table : Table Value} (h : readConfig files path = .ok table) :
    ∃ entry ∈ files.nodes, ∃ content, entry.2 = .file content ∧
      Toml.readOctets content = .ok table := by
  rw [readConfig] at h
  obtain ⟨content, hcontent, hread⟩ := bind_eq_ok_iff.1 h
  rw [mapError_eq_ok_iff] at hcontent hread
  obtain ⟨node, hnode, hfile⟩ := bind_eq_ok_iff.1 hcontent
  obtain ⟨place, -, hplace⟩ := bind_eq_ok_iff.1 hnode
  cases node with
  | directory => cases hfile
  | file held =>
    cases hfile
    rcases hfound : files.node? place with _ | found
    · rw [hfound] at hplace
      cases hplace
    · rw [hfound] at hplace
      cases hplace
      -- The root is a directory, so the file is listed.
      unfold node? at hfound
      split at hfound
      · cases hfound
      · obtain ⟨before, after, heq, -⟩ := List.lookup_eq_some_iff.1 hfound
        exact ⟨(place, .file content), by simp [heq], content, rfl, hread⟩

theorem HoldsWritable.of_readConfig (hfiles : files.HoldsWritable) {table : Table Value}
    (h : readConfig files path = .ok table) : (Value.table table).isUnwritable = false := by
  obtain ⟨entry, hentry, content, hcontent, hread⟩ := exists_of_readConfig h
  exact hfiles entry hentry content table hcontent hread

end FileTree

section Tables

variable {files : FileTree} {path : PosixPath}

/-- Asking whether there is anything at a path only fails if the path is too long. -/
theorem reports_isPresent_iff : Reports (isPresent files path) ↔ ¬ files.IsTooLong path := by
  rw [isPresent, reports_mapError_file_iff, FileTree.hasPath, ← FileTree.isOk_find?_iff]
  cases files.find? path <;> rfl

theorem reports_isDirectory_iff :
    Reports ((files.isDirectory path).mapError .file) ↔ ¬ files.IsTooLong path := by
  rw [reports_mapError_file_iff, FileTree.isDirectory, ← FileTree.isOk_find?_iff]
  cases files.find? path <;> rfl

/-- A configuration file that cannot be read is reported, and so is one that is malformed. -/
theorem reports_readConfig : Reports ((readConfig files path).mapError .ofLoad) :=
  reports_mapError fun cause => ⟨.load cause, rfl⟩

variable (hfiles : files.HoldsWritable)

include hfiles

/-- A table of settings that cannot be had is reported. -/
theorem reports_buildTable : Reports (buildTable files path) := by
  rw [buildTable, reports_bind_iff]
  refine ⟨reports_readConfig, fun document hdocument => ?_⟩
  have hwritable := hfiles.of_readConfig (mapError_eq_ok_iff.1 hdocument)
  split
  · exact reports_pure _
  · exact reports_pure _
  · next value hget =>
    exact reports_error_iff.2
      (Failure.exists_fault_invalid (Value.isUnwritable_of_get? hwritable hget) _ _ _)

/-- Reading a file that may be missing only fails unreported if its path is too long. -/
theorem reports_optionalBuildTable_iff :
    Reports (optionalBuildTable files path) ↔ ¬ files.IsTooLong path := by
  rw [optionalBuildTable, reports_bind_iff, reports_isPresent_iff, and_iff_left_iff_imp]
  intro _ present _
  cases present with
  | true => exact reports_buildTable hfiles
  | false => exact reports_pure _

/-- Nor does reading a file that must exist, for a missing one is reported. -/
theorem reports_namedBuildTable_iff {config? : Option PosixPath} :
    Reports (namedBuildTable files config?) ↔
      ∀ path, config? = some path → ¬ files.IsTooLong path := by
  cases config? with
  | none => simp [namedBuildTable]
  | some path =>
    rw [namedBuildTable, requiredBuildTable, reports_bind_iff, reports_isPresent_iff]
    simp only [Option.some.injEq, forall_eq', and_iff_left_iff_imp]
    intro _ present _
    cases present with
    | true => exact reports_buildTable hfiles
    | false => exact reports_error_iff.2 ⟨_, rfl⟩

end Tables

/-- No path at which settings are looked for is too long. The files are looked for in turn, as long
as none of them is at fault. -/
structure Surroundings.AsksShort (surroundings : Surroundings) (config? : Option PosixPath) :
    Prop where
  /-- The file in the home directory. -/
  home : ¬ surroundings.files.IsTooLong (surroundings.home.join (.ofText homeFileName))
  /-- The file in the working directory. -/
  project : ∀ ofHome,
    optionalBuildTable surroundings.files (surroundings.home.join (.ofText homeFileName)) =
        .ok ofHome →
      ¬ surroundings.files.IsTooLong (surroundings.files.workingPath.join (.ofText configFileName))
  /-- The file that is named. -/
  named : ∀ ofHome ofProject,
    optionalBuildTable surroundings.files (surroundings.home.join (.ofText homeFileName)) =
        .ok ofHome →
      optionalBuildTable surroundings.files
          (surroundings.files.workingPath.join (.ofText configFileName)) = .ok ofProject →
        ∀ path, config? = some path → ¬ surroundings.files.IsTooLong path

/-- No path at which a workspace is looked for is too long: neither the given one nor, if that is
a directory, the one of the file in it. -/
structure FileTree.AsksShort (files : FileTree) (path : PosixPath) : Prop where
  /-- The path that is given. -/
  given : ¬ files.IsTooLong path
  /-- The path of the file in a directory. -/
  within : files.isDirectory path = .ok true →
    ¬ files.IsTooLong (path.join (.ofText configFileName))

section Settings

variable {surroundings : Surroundings} {config? : Option PosixPath} {overrides : Table Value}

/-- Bringing the settings of all sources together only fails unreported at a path that is too
long. -/
theorem reports_mergedSettings_iff (hfiles : surroundings.files.HoldsWritable) :
    Reports (mergedSettings surroundings config? overrides) ↔ surroundings.AsksShort config? := by
  have hvariables (environment : Table String) (settings : List Variable) :
      Reports ((readVariables environment settings).mapError .ofLoad) :=
    reports_mapError fun cause => ⟨.load cause, rfl⟩
  simp only [mergedSettings, reports_bind_iff, reports_optionalBuildTable_iff hfiles,
    reports_namedBuildTable_iff hfiles, hvariables, reports_pure, implies_true, and_true]
  constructor
  · rintro ⟨hhome, hrest⟩
    exact ⟨hhome, fun ofHome h => (hrest ofHome h).1,
      fun ofHome ofProject h h' => (hrest ofHome h).2 ofProject h'⟩
  · rintro ⟨hhome, hproject, hnamed⟩
    exact ⟨hhome, fun ofHome h => ⟨hproject ofHome h, fun ofProject => hnamed ofHome ofProject h⟩⟩

/-- The settings in a configuration file can be written. -/
theorem isUnwritable_of_optionalBuildTable {files : FileTree} (hfiles : files.HoldsWritable)
    {path : PosixPath} {table : Table Value} (h : optionalBuildTable files path = .ok table) :
    (Value.table table).isUnwritable = false := by
  unfold optionalBuildTable at h
  obtain ⟨present, -, h⟩ := bind_eq_ok_iff.1 h
  split at h
  · unfold buildTable at h
    obtain ⟨document, hdocument, h⟩ := bind_eq_ok_iff.1 h
    have hwritable := hfiles.of_readConfig (mapError_eq_ok_iff.1 hdocument)
    split at h
    · cases h
      rfl
    · next table hget =>
      cases h
      exact Value.isUnwritable_of_get? hwritable hget
    · cases h
  · cases h
    rfl

/-- A backend that is chosen can be written. -/
theorem Surroundings.Offers.isUnwritable_of_choice? {sources : Sources}
    (hoffers : surroundings.Offers config? sources) (hfiles : surroundings.files.HoldsWritable)
    (hwritable : (Value.table sources.overrides).isUnwritable = false) {value : Value}
    (h : sources.choice? "backend" = some value) : value.isUnwritable = false := by
  have hnamed : (Value.table sources.named).isUnwritable = false := by
    cases hconfig : config? with
    | none =>
      rw [hoffers.unnamed hconfig]
      rfl
    | some path => exact isUnwritable_of_optionalBuildTable hfiles (hoffers.named path hconfig)
  have hproject := isUnwritable_of_optionalBuildTable hfiles hoffers.project
  have hhome := isUnwritable_of_optionalBuildTable hfiles hoffers.home
  -- Neither a switch nor a variable gives a backend.
  have hoverride : overrideFor? sources.overrides "backend" =
      (sources.overrides.get? "backend").filter isGiven := by
    simp [overrideFor?]
  have hvariable : variableFor? sources.environment "backend" = none := rfl
  rw [Sources.choice?, hoverride, hvariable, Option.none_or] at h
  simp only [Option.or_eq_some_iff, Option.filter_eq_some_iff] at h
  rcases h with ⟨hget, -⟩ | ⟨-, hget | ⟨-, hget | ⟨-, hget⟩⟩⟩
  · exact Value.isUnwritable_of_get? hwritable hget
  · exact Value.isUnwritable_of_get? hnamed hget
  · exact Value.isUnwritable_of_get? hproject hget
  · exact Value.isUnwritable_of_get? hhome hget

/-- Settings are loaded, or it is reported why they are not, just if no path at which they are
looked for is too long. -/
theorem reports_loadSettings_iff (hfiles : surroundings.files.HoldsWritable)
    (hoverrides : overrides.keys.Nodup)
    (hwritable : (Value.table overrides).isUnwritable = false)
    {made? : Option (Option Backend)} :
    Reports (loadSettings surroundings config? overrides made?) ↔
      surroundings.AsksShort config? := by
  rw [loadSettings, reports_bind_iff, reports_mergedSettings_iff hfiles, and_iff_left_iff_imp]
  intro _ merged hmerged
  rw [reports_bind_iff]
  refine ⟨?_, fun backend? _ => reports_mapError fun cause => ⟨.load (.badSettings cause), rfl⟩⟩
  obtain ⟨sources, hoffers, rfl, rfl⟩ :=
    Surroundings.exists_offers_of_mergedSettings hoverrides made? hmerged
  -- The settings that were brought together are those that the sources choose.
  have hchoice : ∀ key, merged.get? key = sources.choice? key := by
    rcases mergedSettings_cases hoffers with ⟨-, other, hother, hchoice⟩ | ⟨-, path, hmissing⟩
    · rw [hmerged] at hother
      cases hother
      exact hchoice
    · rw [hmerged] at hmissing
      cases hmissing
  rw [chosenBackend_eq hchoice]
  intro failure hfailure
  -- A backend that cannot be written would have come from a file or an override.
  rcases Sources.backend_eq_error hfailure with hfault | ⟨-, -, value, hvalue, hlong⟩
  · exact hfault
  · rw [hoffers.isUnwritable_of_choice? hfiles hwritable hvalue] at hlong
    cases hlong

end Settings

namespace Workspace

variable {config : Table Value} {root : PosixPath} {source? : Option String}

/-- A part of a configuration that is malformed is reported if its value can be written. -/
theorem reports_malformed {α : Type} {value : Value} (h : value.isUnwritable = false)
    (key reason : String) :
    Reports (.error (malformed source? key value reason) : Except Failure α) :=
  reports_error_iff.2 (Failure.exists_fault_invalid h key reason source?)

/-- Without a list of packages it is reported what is wrong, and the entries of a list can be
written. -/
theorem reports_packageEntries (source? : Option String)
    (h : (Value.table config).isUnwritable = false) :
    Reports (packageEntries source? config) ∧
      ∀ entries, packageEntries source? config = .ok entries →
        ∀ entry ∈ entries, entry.isUnwritable = false := by
  have hworkspace : ((config.get? "workspace").getD (.table [])).isUnwritable = false :=
    Value.isUnwritable_getD h rfl
  unfold packageEntries
  generalize (config.get? "workspace").getD (.table []) = workspace at hworkspace
  dsimp only
  split
  · exact ⟨reports_malformed hworkspace _ _, nofun⟩
  · next fields hfields =>
    cases workspace <;> cases hfields
    have hpackages : ((Table.get? fields "packages").getD (.list [])).isUnwritable = false :=
      Value.isUnwritable_getD hworkspace rfl
    generalize (Table.get? fields "packages").getD (.list []) = packages at hpackages
    split
    · exact ⟨reports_malformed hpackages _ _, nofun⟩
    · next items hitems =>
      cases packages <;> cases hitems
      refine ⟨reports_ok _, ?_⟩
      rintro _ ⟨⟩ entry
      exact Value.isUnwritable_of_mem_list hpackages

/-- It is reported what is wrong with the entry of a package. -/
theorem reports_readPackage {entry : Value} (h : entry.isUnwritable = false) :
    Reports (readPackage source? entry) := by
  cases entry with
  | table fields =>
    have hdependencies :
        ((Table.get? fields "dependencies").getD (.list [])).isUnwritable = false :=
      Value.isUnwritable_getD h rfl
    have hpath : ((Table.get? fields "path").getD (.string ".")).isUnwritable = false :=
      Value.isUnwritable_getD h rfl
    rw [readPackage]
    split
    · exact reports_malformed h _ _
    · dsimp only
      split
      · exact reports_malformed hdependencies _ _
      · rw [hpath]
        exact reports_ok _
  | _ => exact reports_malformed h _ _

/-- It is reported what is wrong with the directories of the external packages. -/
theorem reports_readDependencies (h : (Value.table config).isUnwritable = false) :
    Reports (readDependencies source? config) := by
  unfold readDependencies
  dsimp only
  split
  · exact reports_malformed (Value.isUnwritable_getD h rfl) _ _
  · exact reports_ok _

/-- It is reported what is wrong with the description of a workspace. -/
theorem reports_ofConfig (h : (Value.table config).isUnwritable = false) :
    Reports (ofConfig config root source?) := by
  obtain ⟨hentries, hwritable⟩ := reports_packageEntries source? h
  simp only [ofConfig, reports_bind_iff]
  refine ⟨hentries, fun entries h' => ⟨?packages, fun packages _ => ⟨?dependencies, ?make⟩⟩⟩
  case packages =>
    exact reports_mapM fun entry hentry => reports_readPackage (hwritable _ h' entry hentry)
  case dependencies => exact reports_readDependencies h
  case make => exact fun dependencies _ => reports_mapError fun cause => ⟨.config cause, rfl⟩

section Load

variable {files : FileTree} {path : PosixPath}

/-- The configuration file is the one in a directory, or what is at the path. -/
theorem configPath_eq_ok_iff {found : PosixPath} :
    configPath files path = .ok found ↔ ∃ directory, files.isDirectory path = .ok directory ∧
      (if directory then path.join (.ofText configFileName) else path) = found := by
  simp only [configPath, bind_eq_ok_iff, mapError_eq_ok_iff]
  refine exists_congr fun directory => and_congr_right fun _ => ?_
  cases directory <;> simp [pure, Except.pure]

theorem reports_configPath_iff : Reports (configPath files path) ↔ ¬ files.IsTooLong path := by
  rw [configPath, reports_bind_iff, reports_isDirectory_iff, and_iff_left_iff_imp]
  intro _ directory _
  cases directory <;> exact reports_pure _

/-- A workspace is loaded, or it is reported why it is not, just if no path at which it is looked
for is too long. -/
theorem reports_load_iff (hfiles : files.HoldsWritable) :
    Reports (load files path) ↔ files.AsksShort path := by
  -- Once the file is known, only its path may be too long.
  have hload (found : PosixPath) :
      Reports (do
        if ← isPresent files found then
          let config ← (readConfig files found).mapError .ofLoad
          ofConfig config found.parent (some found.text)
        else throw (.ofLoad (.noFile found.text))) ↔ ¬ files.IsTooLong found := by
    rw [reports_bind_iff, reports_isPresent_iff, and_iff_left_iff_imp]
    intro _ present _
    cases present with
    | true =>
      rw [if_pos rfl, reports_bind_iff]
      refine ⟨reports_readConfig, fun config hconfig => reports_ofConfig ?_⟩
      exact hfiles.of_readConfig (mapError_eq_ok_iff.1 hconfig)
    | false => exact reports_error_iff.2 ⟨_, rfl⟩
  rw [load, reports_bind_iff, reports_configPath_iff]
  simp only [hload]
  constructor
  · rintro ⟨hgiven, hfound⟩
    exact ⟨hgiven, fun hdirectory =>
      hfound _ (configPath_eq_ok_iff.2 ⟨true, hdirectory, if_pos rfl⟩)⟩
  · rintro ⟨hgiven, hwithin⟩
    refine ⟨hgiven, fun found hfound => ?_⟩
    obtain ⟨directory, hdirectory, rfl⟩ := configPath_eq_ok_iff.1 hfound
    cases directory with
    | true => exact hwithin hdirectory
    | false => exact hgiven

end Load

end Workspace

/-- Settings and workspaces are loaded, or it is reported why they are not, just if no path at which
they are looked for is too long. -/
theorem Surroundings.reportsLoading_iff {surroundings : Surroundings}
    (hfiles : surroundings.files.HoldsWritable) {overrides : Table Value}
    (hoverrides : overrides.keys.Nodup)
    (hwritable : (Value.table overrides).isUnwritable = false) (config? : Option PosixPath)
    (made? : Option (Option Backend)) :
    (Reports (loadSettings surroundings config? overrides made?) ↔
      surroundings.AsksShort config?) ∧
    ∀ path, Reports (Workspace.load surroundings.files path) ↔ surroundings.files.AsksShort path :=
  ⟨reports_loadSettings_iff hfiles hoverrides hwritable,
    fun _ => Workspace.reports_load_iff hfiles⟩

/-- A configuration in which a package has no name and the backend is no table. -/
def malformedConfig : String :=
  "workspace.packages = ['app']\nbuild.backend = 'es'\n"

/-- What is wrong with such a configuration is reported. -/
theorem Surroundings.reportsLoading_iff_malformed :
    (∃ fault, loadSettings (.ofProject malformedConfig) none [("output", .string "out")] =
      .error (.fault fault)) ∧
    ∃ fault, Workspace.load (Surroundings.ofProject malformedConfig).files (.ofText ".") =
      .error (.fault fault) := by
  have hread : (Toml.readOctets (Text.Utf8.encode malformedConfig)).toOption.all
      (fun table => !(Value.table table).isUnwritable) = true := by
    decide +kernel
  have hfiles : (Surroundings.ofProject malformedConfig).files.HoldsWritable := by
    intro entry hentry content table hcontent htable
    simp only [Surroundings.ofProject, List.mem_cons, List.not_mem_nil, or_false] at hentry
    rcases hentry with rfl | rfl | rfl
    · cases hcontent
    · cases hcontent
    · obtain rfl := FileNode.file.inj hcontent
      rw [htable] at hread
      simpa [Except.toOption] using hread
  have hshort (path : PosixPath) (h : path.text.utf8ByteSize ≤ FileTree.maxPath ∧
      ∀ name ∈ path.names, name.utf8ByteSize ≤ FileTree.maxName) :
      ¬ (Surroundings.ofProject malformedConfig).files.IsTooLong path :=
    FileTree.not_isTooLong h.1 h.2
  obtain ⟨hsettings, hworkspace⟩ := reportsLoading_iff hfiles
    (show (Table.keys [("output", Value.string "out")]).Nodup by decide) rfl none none
  constructor
  · have hreports := hsettings.2 ⟨hshort _ (by decide +kernel),
      fun _ _ => hshort _ (by decide +kernel), fun _ _ _ _ path hpath => by cases hpath⟩
    rcases hload : loadSettings (.ofProject malformedConfig) none [("output", .string "out")] with
      failure | settings
    · obtain ⟨fault, rfl⟩ := hreports failure hload
      exact ⟨fault, rfl⟩
    · have hfails : (loadSettings (.ofProject malformedConfig) none
          [("output", .string "out")]).isOk = false := by
        decide +kernel
      rw [hload] at hfails
      cases hfails
  · have hreports := (hworkspace (.ofText ".")).2
      ⟨hshort _ (by decide +kernel), fun _ => hshort _ (by decide +kernel)⟩
    rcases hload : Workspace.load (Surroundings.ofProject malformedConfig).files (.ofText ".") with
      failure | workspace
    · obtain ⟨fault, rfl⟩ := hreports failure hload
      exact ⟨fault, rfl⟩
    · have hfails : (Workspace.load (Surroundings.ofProject malformedConfig).files
          (.ofText ".")).isOk = false := by
        decide +kernel
      rw [hload] at hfails
      cases hfails

/-- A file name that is longer than names may be. -/
def PosixPath.longName : PosixPath :=
  .ofChars (List.replicate 256 'n')

/-- A file whose name is too long is not reported to be missing. -/
theorem not_reports_longName :
    ¬ Reports (Workspace.load (Surroundings.ofProject "").files .longName) := by
  have hlong : (Surroundings.ofProject "").files.find? .longName = .error .tooLong := by
    decide +kernel
  have hload : Workspace.load (Surroundings.ofProject "").files .longName =
      .error (.file .tooLong) := by
    rw [Workspace.load, Workspace.configPath, FileTree.isDirectory, hlong]
    rfl
  rw [hload, reports_error_iff]
  rintro ⟨fault, ⟨⟩⟩

end BuildAudit
