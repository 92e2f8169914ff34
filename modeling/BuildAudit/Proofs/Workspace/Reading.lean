import BuildAudit.Build.Run
import BuildAudit.Proofs.Workspace.Configured
import Mathlib.Data.List.Induction

/-!
# Reading workspaces from configurations

A configuration is well formed if all its parts have the required forms and no two packages have the
same canonical name (`IsWellFormed`). The parts are checked in order, so one that is not well formed
has a first flaw (`FirstFlaw`). A workspace is read just from the well-formed configurations, and
for the others the first flaw is reported; what is read are the packages of the entries, in their
order, and a name leads to the package whose canonical name it has (`ReadsConfig`).

All this holds as far as values can be written. A package may have any value for its directory,
which is then written as a text, and a report shows the value that is at fault. A whole number with
too many digits can be neither, so reading is as described just if it does not come to such a value
(`readsConfig_iff`).
-/

namespace BuildAudit

/-- Names that are not distinct have a first one that is among those before it. -/
theorem exists_first_repeated {names : List String} (h : ¬ names.Nodup) :
    ∃ before name after, names = before ++ name :: after ∧ before.Nodup ∧ name ∈ before := by
  -- The repetition is the last name of the shortest beginning that is not distinct.
  induction names using List.reverseRecOn with
  | nil => exact absurd .nil h
  | append_singleton names name ih =>
    by_cases hdistinct : names.Nodup
    · refine ⟨names, name, [], rfl, hdistinct, ?_⟩
      by_contra hnew
      refine h (List.nodup_append.2 ⟨hdistinct, List.nodup_singleton name, ?_⟩)
      rintro other hother same hsame rfl
      rw [List.mem_singleton.1 hsame] at hother
      exact hnew hother
    · obtain ⟨before, repeated, after, rfl, hbefore, hmem⟩ := ih hdistinct
      exact ⟨before, repeated, after ++ [name], by simp, hbefore, hmem⟩

/-- The name that is found is the first one that is among those before it. -/
theorem firstRepeated?_append_cons {seen before after : List String} {name : String}
    (hbefore : before.Nodup) (hseen : ∀ earlier ∈ before, earlier ∉ seen)
    (hname : name ∈ before ∨ name ∈ seen) :
    firstRepeated? seen (before ++ name :: after) = some name := by
  induction before generalizing seen with
  | nil =>
    have hmem : name ∈ seen := hname.resolve_left List.not_mem_nil
    rw [List.nil_append, firstRepeated?, if_pos (List.contains_iff_mem.2 hmem)]
  | cons first rest ih =>
    obtain ⟨hfirst, hrest⟩ := List.nodup_cons.1 hbefore
    obtain ⟨hnew, hothers⟩ := List.forall_mem_cons.1 hseen
    rw [List.cons_append, firstRepeated?, if_neg (by simpa using hnew)]
    refine ih hrest (fun earlier hearlier => ?_) ?_
    · rw [List.mem_cons, not_or]
      exact ⟨fun heq => hfirst (heq ▸ hearlier), hothers earlier hearlier⟩
    · rw [List.mem_cons] at hname ⊢
      rw [or_assoc, or_left_comm] at hname
      exact hname

namespace Value

/-- A value is a table of texts. -/
def IsTableOfTexts (value : Value) : Prop :=
  ∃ entries : Table String, value = .table (entries.map fun entry => (entry.1, .string entry.2))

theorem asTable?_eq_none {value : Value} (h : ∀ fields, value ≠ .table fields) :
    value.asTable? = none := by
  cases value with
  | table fields => exact absurd rfl (h fields)
  | _ => rfl

theorem asList?_eq_none {value : Value} (h : ∀ items, value ≠ .list items) :
    value.asList? = none := by
  cases value with
  | list items => exact absurd rfl (h items)
  | _ => rfl

theorem asStrings?_eq_none {value : Value}
    (h : ∀ texts : List String, value ≠ .list (texts.map .string)) : value.asStrings? = none :=
  Option.eq_none_iff_forall_ne_some.2 fun texts htexts => h texts (asStrings?_eq_some_iff.1 htexts)

end Value

namespace Workspace

/-- The entry of a package gives a name and, unless it leaves them out, names of packages that it
declares to depend on. -/
def GivesPackage (entry : Value) (name : String) (declared : List String) : Prop :=
  ∃ fields, entry = .table fields ∧ Table.get? fields "name" = some (.string name) ∧
    (Table.get? fields "dependencies" = some (.list (declared.map .string)) ∨
      Table.get? fields "dependencies" = none ∧ declared = [])

/-- An entry has the form of one of a package. -/
def IsPackageEntry (entry : Value) : Prop :=
  ∃ name declared, GivesPackage entry name declared

/-- What the entry of a package has for its directory. -/
def pathValue (entry : Value) : Value :=
  (entry.asTable?.bind (·.get? "path")).getD (.string ".")

/-- The canonical names that are written for packages. -/
def configuredNames (config : Table Value) : List String :=
  ((configuredPackages config).filterMap configuredName?).map canonicalName

/-- A configuration lists packages, or leaves their list out. -/
structure ListsPackages (config : Table Value) : Prop where
  /-- The part about the workspace is a table. -/
  workspace : ∀ value, config.get? "workspace" = some value → ∃ fields, value = .table fields
  /-- What it has for the packages is a list. -/
  packages : ∀ fields value, config.get? "workspace" = some (.table fields) →
    Table.get? fields "packages" = some value → ∃ entries, value = .list entries

/-- All parts of a configuration have the required forms. -/
structure IsWellFormed (config : Table Value) : Prop where
  /-- The packages are a list. -/
  listed : ListsPackages config
  /-- Each entry is that of a package. -/
  packages : ∀ entry ∈ configuredPackages config, IsPackageEntry entry
  /-- The external packages are a table of directories. -/
  dependencies : ∀ value, config.get? "dependencies" = some value → value.IsTableOfTexts
  /-- The packages have different names. -/
  names : (configuredNames config).Nodup

/-- What is said about an entry that is not that of a package. Its declared dependencies are looked
at only if it has a name. -/
inductive EntryFlaw (source? : Option String) : Value → ConfigFault → Prop where
  /-- The entry is no table with a name. -/
  | name {entry : Value}
    (hname : ∀ fields name, entry = .table fields →
      Table.get? fields "name" ≠ some (.string name)) :
    EntryFlaw source? entry
      (.invalid "workspace.packages" entry "each package needs a `name`" source?)
  /-- The declared dependencies are no list of names. -/
  | declared {fields : Table Value} {name : String} {value : Value}
    (hname : fields.get? "name" = some (.string name))
    (hvalue : fields.get? "dependencies" = some value)
    (hkind : ∀ declared : List String, value ≠ .list (declared.map .string)) :
    EntryFlaw source? (.table fields) (.invalid s!"workspace.packages.{name}.dependencies" value
      "expected a list of package names" source?)

/-- What is said about the first part of a configuration that does not have the required form. What
is checked before that part is well formed. -/
inductive FirstFlaw (config : Table Value) (source? : Option String) : ConfigFault → Prop where
  /-- The part about the workspace is no table. -/
  | workspace {value : Value} (hvalue : config.get? "workspace" = some value)
    (hkind : ∀ fields, value ≠ .table fields) :
    FirstFlaw config source? (.invalid "workspace" value "expected a table" source?)
  /-- The packages are no list. -/
  | packages {fields : Table Value} {value : Value}
    (hfields : config.get? "workspace" = some (.table fields))
    (hvalue : fields.get? "packages" = some value) (hkind : ∀ entries, value ≠ .list entries) :
    FirstFlaw config source?
      (.invalid "workspace.packages" value "expected an array of tables" source?)
  /-- An entry is not that of a package, but those before it are. -/
  | entry {before after : List Value} {entry : Value} {fault : ConfigFault}
    (hlisted : ListsPackages config)
    (hentries : configuredPackages config = before ++ entry :: after)
    (hbefore : ∀ earlier ∈ before, IsPackageEntry earlier)
    (hentry : EntryFlaw source? entry fault) : FirstFlaw config source? fault
  /-- The external packages are no table of directories. -/
  | dependencies {value : Value} (hlisted : ListsPackages config)
    (hpackages : ∀ entry ∈ configuredPackages config, IsPackageEntry entry)
    (hvalue : config.get? "dependencies" = some value) (hkind : ¬ value.IsTableOfTexts) :
    FirstFlaw config source?
      (.invalid "dependencies" value "expected a table of name = source directory" source?)
  /-- A package has the canonical name of one before it. -/
  | duplicate {before after : List String} {name : String} (hlisted : ListsPackages config)
    (hpackages : ∀ entry ∈ configuredPackages config, IsPackageEntry entry)
    (hdependencies : ∀ value, config.get? "dependencies" = some value → value.IsTableOfTexts)
    (hnames : configuredNames config = before ++ name :: after) (hbefore : before.Nodup)
    (hrepeated : name ∈ before) :
    FirstFlaw config source?
      (.invalid "workspace.packages" (.string name) "duplicate package name" none)

/-- A package is the one of an entry, with canonical names. -/
def IsReadFrom (package : Package) (entry : Value) : Prop :=
  ∃ name declared, GivesPackage entry name declared ∧ package.name = canonicalName name ∧
    Enumerates package.dependencies fun dependency =>
      ∃ spelled ∈ declared, canonicalName spelled = dependency

/-- Names lead to the packages of a workspace. -/
structure LooksUp (workspace : Workspace) : Prop where
  /-- A name leads to a package just if that has its canonical form. -/
  found_iff : ∀ name package, workspace.packageOf name = .ok package ↔
    package ∈ workspace.packages ∧ package.name = canonicalName name
  /-- There is only one such package. -/
  unique : ∀ name, ∀ package ∈ workspace.packages, package.name = canonicalName name →
    ∀ other ∈ workspace.packages, other.name = canonicalName name → package = other
  /-- A name is refused just if there is none. -/
  unknown_iff : ∀ name,
    workspace.packageOf name =
        .error (.unknownPackage (canonicalName name) workspace.packageNames) ↔
      workspace.Lacks name
  /-- The declared dependencies of a name are those of the package that it leads to. -/
  declared : ∀ settings tools packages name package, workspace.packageOf name = .ok package →
    (auditContext workspace settings tools packages).declaredOf name = .ok package.dependencies
  /-- They are refused in the same way. -/
  undeclared : ∀ settings tools packages name, workspace.Lacks name →
    (auditContext workspace settings tools packages).declaredOf name =
      .error (.ofConfig (.unknownPackage (canonicalName name) workspace.packageNames))

/-- How a configuration is read. -/
structure ReadsConfig (config : Table Value) (root : PosixPath) (source? : Option String) :
    Prop where
  /-- There is a workspace just if the configuration is well formed. -/
  accepted_iff : (∃ workspace, ofConfig config root source? = .ok workspace) ↔ IsWellFormed config
  /-- Any other configuration has a first flaw. -/
  flawed : ¬ IsWellFormed config → ∃ fault, FirstFlaw config source? fault
  /-- The first flaw is reported. -/
  refused : ∀ fault, FirstFlaw config source? fault →
    ofConfig config root source? = .error (.ofConfig fault)
  /-- The packages are those of the entries, in their order. -/
  packages : ∀ workspace, ofConfig config root source? = .ok workspace →
    List.Forall₂ IsReadFrom workspace.packages (configuredPackages config)
  /-- Names lead to these packages. -/
  lookups : ∀ workspace, ofConfig config root source? = .ok workspace → workspace.LooksUp

/-- The directories that are read can be written. An entry is read if it is well formed and those
before it are. -/
def WritesPaths (config : Table Value) : Prop :=
  ∀ before entry after, configuredPackages config = before ++ entry :: after →
    (∀ earlier ∈ before, IsPackageEntry earlier) → IsPackageEntry entry →
      (pathValue entry).isUnwritable = false

/-- All values that reading a configuration comes to can be written. -/
structure WritesValues (config : Table Value) (source? : Option String) : Prop where
  /-- These are the directories of the packages. -/
  paths : WritesPaths config
  /-- Otherwise it is the value that is at fault. -/
  flaw : ∀ key value reason shown?, FirstFlaw config source? (.invalid key value reason shown?) →
    value.isUnwritable = false

section Parts

variable {config : Table Value} {source? : Option String} {entry : Value}

/-- A list of packages that is there is read. -/
theorem packageEntries_of_listsPackages (h : ListsPackages config) :
    packageEntries source? config = .ok (configuredPackages config) := by
  -- The part about the workspace may be left out, and the list in it too.
  rcases hworkspace : config.get? "workspace" with _ | workspace
  · rw [packageEntries, configuredPackages, hworkspace]
    rfl
  · obtain ⟨fields, rfl⟩ := h.workspace workspace hworkspace
    rcases hpackages : Table.get? fields "packages" with _ | packages
    · simp [packageEntries, configuredPackages, hworkspace, hpackages, Value.asTable?,
        Value.asList?]
    · obtain ⟨entries, rfl⟩ := h.packages fields packages hworkspace hpackages
      simp [packageEntries, configuredPackages, hworkspace, hpackages, Value.asTable?,
        Value.asList?]

/-- Where there are entries of packages they are in a list. -/
theorem listsPackages_of_ne_nil (h : configuredPackages config ≠ []) : ListsPackages config := by
  rw [configuredPackages] at h
  constructor
  case workspace =>
    intro value hvalue
    rw [hvalue, Option.bind_some] at h
    cases value with
    | table fields => exact ⟨fields, rfl⟩
    | _ => exact absurd rfl h
  case packages =>
    intro fields value hfields hvalue
    rw [hfields, Option.bind_some, Value.asTable?, Option.bind_some, hvalue] at h
    cases value with
    | list entries => exact ⟨entries, rfl⟩
    | _ => exact absurd rfl h

/-- The entry of a package is read as far as its directory can be written. -/
theorem readPackage_of_givesPackage {name : String} {declared : List String}
    (h : GivesPackage entry name declared) :
    readPackage source? entry =
      if (pathValue entry).isUnwritable then .error .longNumber
      else .ok (.make name (pathValue entry).text declared
        ((entry.asTable?.bind (·.get? "pedantic_packages")).getD (.bool false)).isOn) := by
  obtain ⟨fields, rfl, hname, hdeclared⟩ := h
  have hread := Value.asStrings?_getD_eq_some_iff.2 hdeclared
  simp only [readPackage, hname, hread, Option.bind_some, Value.asString?, pathValue,
    Value.asTable?]
  rfl

/-- Reading an entry that is not that of a package fails with what is wrong with it. -/
theorem readPackage_of_entryFlaw {key reason : String} {value : Value} {shown? : Option String}
    (h : EntryFlaw source? entry (.invalid key value reason shown?)) :
    readPackage source? entry = .error (.invalid key value reason shown?) := by
  cases h with
  | name hname =>
    unfold readPackage
    split
    · next fields =>
      -- A name that is no text counts as none.
      have hnone : (Table.get? fields "name").bind Value.asString? = none := by
        rw [Option.bind_eq_none_iff]
        intro held hheld
        rw [Option.eq_none_iff_forall_ne_some]
        intro name htext
        rw [Value.asString?_eq_some_iff.1 htext] at hheld
        exact hname fields name rfl hheld
      rw [hnone]
      rfl
    · rfl
  | declared hname hvalue hkind =>
    simp only [readPackage, hname, hvalue, Option.bind_some, Option.getD_some, Value.asString?,
      Value.asStrings?_eq_none hkind]
    rfl

/-- There is something wrong with an entry that is not that of a package. -/
theorem exists_entryFlaw (source? : Option String) (h : ¬ IsPackageEntry entry) :
    ∃ fault, EntryFlaw source? entry fault := by
  by_cases hnamed : ∃ fields name,
      entry = .table fields ∧ Table.get? fields "name" = some (.string name)
  · obtain ⟨fields, name, rfl, hname⟩ := hnamed
    rcases hvalue : Table.get? fields "dependencies" with _ | value
    · exact absurd ⟨name, [], fields, rfl, hname, Or.inr ⟨hvalue, rfl⟩⟩ h
    · refine ⟨_, .declared hname hvalue fun declared hlist => h ?_⟩
      rw [hlist] at hvalue
      exact ⟨name, declared, fields, rfl, hname, Or.inl hvalue⟩
  · refine ⟨_, .name fun fields name hentry hname => hnamed ?_⟩
    exact ⟨fields, name, hentry, hname⟩

/-- A package that is read comes from the entry of one. -/
theorem isReadFrom_of_readPackage {package : Package}
    (h : readPackage source? entry = .ok package) : IsReadFrom package entry := by
  by_cases hentry : IsPackageEntry entry
  · obtain ⟨name, declared, hgives⟩ := hentry
    rw [readPackage_of_givesPackage hgives] at h
    split at h
    · cases h
    · cases h
      refine ⟨name, declared, hgives, rfl, ?_⟩
      exact (OrderedSet.enumerates_ofList _).congr fun dependency => List.mem_map
  · -- Any other entry is flawed and would not have been read.
    obtain ⟨⟨key, value, reason, shown?⟩ | _, hflaw⟩ := exists_entryFlaw source? hentry
    · rw [readPackage_of_entryFlaw hflaw] at h
      cases h
    · cases hflaw

/-- The external packages are read if they are a table of directories. -/
theorem exists_readDependencies (source? : Option String)
    (h : ∀ value, config.get? "dependencies" = some value → value.IsTableOfTexts) :
    ∃ directories, readDependencies source? config = .ok directories := by
  rcases hvalue : config.get? "dependencies" with _ | value
  · exact ⟨[], readDependencies_eq_ok_iff.2 (Or.inr ⟨hvalue, rfl⟩)⟩
  · obtain ⟨entries, rfl⟩ := h value hvalue
    exact ⟨entries, readDependencies_eq_ok_iff.2 (Or.inl hvalue)⟩

/-- Reading them fails if they are anything else. -/
theorem readDependencies_of_not_isTableOfTexts {value : Value}
    (hvalue : config.get? "dependencies" = some value) (hkind : ¬ value.IsTableOfTexts) :
    readDependencies source? config = .error (.invalid "dependencies" value
      "expected a table of name = source directory" source?) := by
  rcases hread : readDependencies source? config with failure | directories
  · unfold readDependencies at hread
    dsimp only at hread
    rw [hvalue, Option.getD_some] at hread
    split at hread
    · exact hread.symm
    · cases hread
  · rcases readDependencies_eq_ok_iff.1 hread with htable | ⟨hnone, -⟩
    · cases hvalue.symm.trans htable
      exact absurd ⟨directories, rfl⟩ hkind
    · cases hvalue.symm.trans hnone

/-- A configuration that is not well formed has a first flaw. -/
theorem exists_firstFlaw (source? : Option String) (h : ¬ IsWellFormed config) :
    ∃ fault, FirstFlaw config source? fault := by
  by_contra hnone
  rw [not_exists] at hnone
  -- Each check is passed, for else the part that it is about would be the first flaw.
  have hlisted : ListsPackages config := by
    constructor
    case workspace =>
      intro value hvalue
      by_contra hkind
      exact hnone _ (.workspace hvalue (not_exists.1 hkind))
    case packages =>
      intro fields value hfields hvalue
      by_contra hkind
      exact hnone _ (.packages hfields hvalue (not_exists.1 hkind))
  have hpackages : ∀ entry ∈ configuredPackages config, IsPackageEntry entry := by
    by_contra hsome
    push Not at hsome
    obtain ⟨before, entry, after, hentries, hbefore, hentry⟩ := exists_first hsome
    obtain ⟨fault, hfault⟩ := exists_entryFlaw source? hentry
    refine hnone fault (.entry hlisted hentries (fun earlier hearlier => ?_) hfault)
    exact not_not.1 (hbefore earlier hearlier)
  have hdependencies :
      ∀ value, config.get? "dependencies" = some value → value.IsTableOfTexts := by
    intro value hvalue
    by_contra hkind
    exact hnone _ (.dependencies hlisted hpackages hvalue hkind)
  have hnames : (configuredNames config).Nodup := by
    by_contra hrepeated
    obtain ⟨before, name, after, hnames, hbefore, hmem⟩ := exists_first_repeated hrepeated
    exact hnone _ (.duplicate hlisted hpackages hdependencies hnames hbefore hmem)
  exact h ⟨hlisted, hpackages, hdependencies, hnames⟩

end Parts

section Whole

variable {config : Table Value} {root : PosixPath} {source? : Option String}

/-- Where packages are listed, reading goes on with them. -/
theorem ofConfig_of_listsPackages (h : ListsPackages config) :
    ofConfig config root source? = (do
      let packages ← (configuredPackages config).mapM (readPackage source?)
      let dependencies ← readDependencies source? config
      (make packages dependencies root).mapError .ofConfig) := by
  rw [ofConfig, packageEntries_of_listsPackages h]
  rfl

/-- An entry that is read can be read: it is that of a package, and its directory can be written. -/
theorem exists_readPackage {before after : List Value} {entry : Value} (hpaths : WritesPaths config)
    (hentries : configuredPackages config = before ++ entry :: after)
    (hbefore : ∀ earlier ∈ before, IsPackageEntry earlier) (hentry : IsPackageEntry entry) :
    ∃ package, readPackage source? entry = .ok package := by
  obtain ⟨name, declared, hgives⟩ := hentry
  have hwritable := hpaths before entry after hentries hbefore ⟨name, declared, hgives⟩
  exact ⟨_, by rw [readPackage_of_givesPackage hgives, hwritable]; rfl⟩

/-- Entries of packages are all read if their directories can be written. -/
theorem exists_readPackages (source? : Option String) (hpaths : WritesPaths config)
    (hpackages : ∀ entry ∈ configuredPackages config, IsPackageEntry entry) :
    ∃ packages, (configuredPackages config).mapM (readPackage source?) = .ok packages := by
  refine exists_mapM_eq_ok fun entry hentry => ?_
  obtain ⟨before, after, hentries⟩ := List.append_of_mem hentry
  refine exists_readPackage hpaths hentries (fun earlier hearlier => ?_) (hpackages entry hentry)
  exact hpackages earlier (by rw [hentries]; exact List.mem_append_left _ hearlier)

/-- A well-formed configuration is accepted if its directories can be written. -/
theorem exists_ofConfig (root : PosixPath) (source? : Option String) (hpaths : WritesPaths config)
    (hwell : IsWellFormed config) : ∃ workspace, ofConfig config root source? = .ok workspace := by
  obtain ⟨packages, hpackages⟩ := exists_readPackages source? hpaths hwell.packages
  obtain ⟨directories, hdirectories⟩ := exists_readDependencies source? hwell.dependencies
  -- The names that are written are those of the packages, so these are distinct too.
  have hnames : (packages.map (·.name)).Nodup := map_canonicalName_eq hpackages ▸ hwell.names
  obtain ⟨workspace, hmake⟩ : ∃ workspace, make packages directories root = .ok workspace :=
    ⟨_, dif_pos hnames⟩
  rw [ofConfig_of_listsPackages hwell.listed, hpackages, hdirectories]
  exact ⟨workspace, congrArg (Except.mapError Failure.ofConfig) hmake⟩

/-- Packages are refused for the first canonical name that one before has too. -/
theorem make_of_repeated {packages : List Package} {before after : List String} {name : String}
    (directories : Table String) (root : PosixPath)
    (hnames : packages.map (·.name) = before ++ name :: after) (hbefore : before.Nodup)
    (hrepeated : name ∈ before) :
    make packages directories root =
      .error (.invalid "workspace.packages" (.string name) "duplicate package name" none) := by
  have hnot : ¬ (packages.map (·.name)).Nodup := by
    rw [hnames]
    intro hdistinct
    exact (List.nodup_append.1 hdistinct).2.2 name hrepeated name List.mem_cons_self rfl
  have hfound : firstRepeated? [] (before ++ name :: after) = some name :=
    firstRepeated?_append_cons hbefore (fun _ _ => List.not_mem_nil) (Or.inl hrepeated)
  rw [make, dif_neg hnot, hnames, hfound, Option.getD_some]

/-- The first flaw is what reading fails with if the directories before it can be written. -/
theorem ofConfig_of_firstFlaw {key reason : String} {value : Value} {shown? : Option String}
    (hpaths : WritesPaths config)
    (h : FirstFlaw config source? (.invalid key value reason shown?)) :
    ofConfig config root source? = .error (.invalid key value reason shown?) := by
  cases h with
  | workspace hvalue hkind =>
    simp only [ofConfig, packageEntries, hvalue, Option.getD_some, Value.asTable?_eq_none hkind]
    rfl
  | packages hfields hvalue hkind =>
    simp only [ofConfig, packageEntries, hfields, hvalue, Option.getD_some, Value.asTable?,
      Value.asList?_eq_none hkind]
    rfl
  | entry hlisted hentries hbefore hentry =>
    -- The entries before the flawed one are read, so it is the first that reading fails for.
    rw [ofConfig_of_listsPackages hlisted, hentries,
      mapM_append_cons_eq_error (fun earlier hearlier => Or.inl ?_)
        (readPackage_of_entryFlaw hentry)]
    · rfl
    · obtain ⟨before, between, rfl⟩ := List.append_of_mem hearlier
      rw [List.append_assoc, List.cons_append] at hentries
      refine exists_readPackage hpaths hentries (fun other hother => ?_) (hbefore earlier hearlier)
      exact hbefore other (List.mem_append_left _ hother)
  | dependencies hlisted hpackages hvalue hkind =>
    obtain ⟨packages, hread⟩ := exists_readPackages source? hpaths hpackages
    rw [ofConfig_of_listsPackages hlisted, hread,
      readDependencies_of_not_isTableOfTexts hvalue hkind]
    rfl
  | duplicate hlisted hpackages hdependencies hnames hbefore hrepeated =>
    obtain ⟨packages, hread⟩ := exists_readPackages source? hpaths hpackages
    obtain ⟨directories, hdirectories⟩ :=
      exists_readDependencies source? hdependencies
    -- The packages that are read have the names in which one is repeated.
    have hmake := make_of_repeated directories root ((map_canonicalName_eq hread).symm.trans hnames)
      hbefore hrepeated
    rw [ofConfig_of_listsPackages hlisted, hread, hdirectories]
    exact congrArg (Except.mapError Failure.ofConfig) hmake

/-- Reading fails in another way once it comes to a directory that cannot be written. -/
theorem ofConfig_of_isUnwritable {before after : List Value} {entry : Value}
    (hentries : configuredPackages config = before ++ entry :: after)
    (hbefore : ∀ earlier ∈ before, IsPackageEntry earlier) (hentry : IsPackageEntry entry)
    (hlong : (pathValue entry).isUnwritable = true) :
    ofConfig config root source? = .error .longNumber := by
  have hlisted : ListsPackages config := listsPackages_of_ne_nil (by simp [hentries])
  obtain ⟨name, declared, hgives⟩ := hentry
  have hfails : readPackage source? entry = .error .longNumber := by
    rw [readPackage_of_givesPackage hgives, if_pos hlong]
  rw [ofConfig_of_listsPackages hlisted, hentries, mapM_append_cons_eq_error ?_ hfails]
  · rfl
  · -- An entry before may have such a directory too, and then reading fails for that one.
    intro earlier hearlier
    obtain ⟨name', declared', hgives'⟩ := hbefore earlier hearlier
    rw [readPackage_of_givesPackage hgives']
    split
    · exact Or.inr rfl
    · exact Or.inl ⟨_, rfl⟩

/-- The packages of a workspace are those of the entries of its configuration, in their order. -/
theorem forall₂_isReadFrom {workspace : Workspace}
    (h : ofConfig config root source? = .ok workspace) :
    List.Forall₂ IsReadFrom workspace.packages (configuredPackages config) := by
  have hread := forall₂_of_mapM_eq_ok (parts_of_ofConfig h).1
  exact (hread.imp fun entry package => isReadFrom_of_readPackage).flip

/-- Names lead to the packages of any workspace. -/
theorem looksUp (workspace : Workspace) : workspace.LooksUp := by
  constructor
  case found_iff =>
    intro name package
    constructor
    · intro hfound
      -- Some package has the name, and what is found by a name is the package that has it.
      rcases workspace.lacks_or_exists name with hlacks | ⟨other, hother, hname⟩
      · cases (workspace.packageOf_of_lacks hlacks).symm.trans hfound
      · cases (workspace.packageOf_of_name_eq hother hname).symm.trans hfound
        exact ⟨hother, hname⟩
    · rintro ⟨hpackage, hname⟩
      exact workspace.packageOf_of_name_eq hpackage hname
  case unique =>
    intro name package hpackage hname other hother hname'
    exact workspace.eq_of_name_eq hpackage hother (hname.trans hname'.symm)
  case unknown_iff =>
    intro name
    constructor
    · intro hunknown
      rcases workspace.lacks_or_exists name with hlacks | ⟨other, hother, hname⟩
      · exact hlacks
      · cases (workspace.packageOf_of_name_eq hother hname).symm.trans hunknown
    · exact workspace.packageOf_of_lacks
  case declared =>
    intro settings tools packages name package hfound
    simp only [auditContext, hfound]
    rfl
  case undeclared =>
    intro settings tools packages name hlacks
    simp only [auditContext, workspace.packageOf_of_lacks hlacks]
    rfl

end Whole

/-- A configuration is read as described just if all values that reading it comes to can be
written. -/
theorem readsConfig_iff (config : Table Value) (root : PosixPath) (source? : Option String) :
    ReadsConfig config root source? ↔ WritesValues config source? := by
  constructor
  · intro hreads
    -- A value that cannot be written ends the reading in a way that is no fault.
    have hfails : ofConfig config root source? ≠ .error .longNumber := by
      intro hfailed
      by_cases hwell : IsWellFormed config
      · obtain ⟨workspace, haccepted⟩ := hreads.accepted_iff.2 hwell
        cases hfailed.symm.trans haccepted
      · obtain ⟨fault, hflaw⟩ := hreads.flawed hwell
        cases hfailed.symm.trans (hreads.refused fault hflaw)
    have hpaths : WritesPaths config := by
      intro before entry after hentries hbefore hentry
      rw [← Bool.not_eq_true]
      exact fun hlong => hfails (ofConfig_of_isUnwritable hentries hbefore hentry hlong)
    refine ⟨hpaths, fun key value reason shown? hflaw => ?_⟩
    rw [← Bool.not_eq_true]
    intro hlong
    rw [ofConfig_of_firstFlaw hpaths hflaw, Failure.invalid, if_pos hlong] at hfails
    exact hfails rfl
  · intro hwrites
    have hrefused (fault : ConfigFault) (hflaw : FirstFlaw config source? fault) :
        ofConfig config root source? = .error (.ofConfig fault) := by
      obtain ⟨key, value, reason, shown?⟩ | _ := fault
      · rw [ofConfig_of_firstFlaw hwrites.paths hflaw, Failure.invalid,
          hwrites.flaw key value reason shown? hflaw]
        rfl
      · cases hflaw with
        | entry _ _ _ hentry => cases hentry
    constructor
    case accepted_iff =>
      refine ⟨?_, exists_ofConfig root source? hwrites.paths⟩
      rintro ⟨workspace, haccepted⟩
      by_contra hwell
      obtain ⟨fault, hflaw⟩ := exists_firstFlaw source? hwell
      cases haccepted.symm.trans (hrefused fault hflaw)
    case flawed => exact exists_firstFlaw source?
    case refused => exact hrefused
    case packages => exact fun workspace haccepted => forall₂_isReadFrom haccepted
    case lookups => exact fun workspace _ => looksUp workspace

/-- The least whole number with too many digits. -/
def longNumber : Value :=
  .int (.ofNat (Nat.pow 10 Text.maxDigits))

/-- A configuration whose part about the workspace is that number. -/
def overlong : Table Value :=
  [("workspace", longNumber)]

/-- Reading it fails, but not for the part that does not have the required form. -/
theorem not_readsConfig_overlong :
    ofConfig overlong .here none = .error .longNumber ∧
      FirstFlaw overlong none (.invalid "workspace" longNumber "expected a table" none) ∧
      ¬ ReadsConfig overlong .here none := by
  have hlong : longNumber.isUnwritable = true := by decide +kernel
  have hflaw : FirstFlaw overlong none (.invalid "workspace" longNumber "expected a table" none) :=
    .workspace rfl fun fields h => by cases h
  have hfails : ofConfig overlong .here none = .error .longNumber := by
    have hpaths : WritesPaths overlong := by
      intro before entry after hentries
      cases before <;> cases hentries
    rw [ofConfig_of_firstFlaw hpaths hflaw, Failure.invalid, if_pos hlong]
  refine ⟨hfails, hflaw, fun hreads => ?_⟩
  cases hfails.symm.trans (hreads.refused _ hflaw)

end Workspace

end BuildAudit
