import BuildAudit.Proofs.Settings.Basic
import BuildAudit.Proofs.Settings.Sources

/-!
# Loaded settings

Which settings are loaded depends only on the values that are chosen for their keys, each from the
highest source that has one (`Sources.Settles`). Loading succeeds with just these settings, and it
fails if any source, however low, has a value for a key that is no setting (`loadSettings_settles`).
-/

namespace BuildAudit

/-- Settings are the ones that sources settle: no source has a value for another key, the fields
follow the values that are chosen, the backend is read from the value that is chosen for it, and no
value is refused. -/
structure Sources.Settles (sources : Sources) (settings : Settings) : Prop where
  /-- Every key is that of a setting. -/
  known : ∀ key, sources.Defines key → key ∈ Settings.keys
  /-- The fields follow the values that are chosen. -/
  follows : settings.Follows sources.choice?
  /-- The backend is the one that is chosen. -/
  backend : sources.backend = .ok settings.backend?
  /-- The values are allowed. -/
  allowed : settings.IsAllowed

/-- A table with an entry that cannot be written cannot be written itself. -/
theorem Value.isUnwritable_table_of_mem {entries : Table Value} {entry : String × Value}
    (hentry : entry ∈ entries) (h : entry.2.isUnwritable = true) :
    (Value.table entries).isUnwritable = true := by
  rw [isUnwritable]
  induction entries with
  | nil => cases hentry
  | cons first rest ih =>
    rw [hasUnwritableEntry, Bool.or_eq_true]
    rcases List.mem_cons.1 hentry with rfl | hmem
    · left
      rwa [isUnwritableEntry.eq_def]
    · exact Or.inr (ih hmem)

/-- What is wrong with a part of a configuration is reported, unless the value cannot be written. -/
theorem Failure.invalid_cases (key : String) (value : Value) (reason : String)
    (source? : Option String) :
    (∃ fault, invalid key value reason source? = .fault fault) ∨
      invalid key value reason source? = .longNumber ∧ value.isUnwritable = true := by
  unfold invalid
  split
  · next h => exact Or.inr ⟨rfl, h⟩
  · exact Or.inl ⟨_, rfl⟩

/-- A malformed backend is reported, unless its value cannot be written. -/
theorem backendOf_eq_error {value : Value} {failure : Failure}
    (h : backendOf value = .error failure) :
    (∃ fault, failure = .fault fault) ∨ failure = .longNumber ∧ value.isUnwritable = true := by
  -- A part of the table that cannot be written makes the table so.
  have hpart {fields : Table Value} {key : String} {default : Value}
      (hdefault : default.isUnwritable = false)
      (hvalue : ((fields.get? key).getD default).isUnwritable = true) :
      (Value.table fields).isUnwritable = true := by
    rcases hget : fields.get? key with _ | held
    · rw [hget, Option.getD_none, hdefault] at hvalue
      cases hvalue
    · rw [hget, Option.getD_some] at hvalue
      exact Value.isUnwritable_table_of_mem (Table.mem_of_get? hget) hvalue
  have hcommand {fields : Table Value} (reason : String) :=
    (Failure.invalid_cases "backend.cmd" ((fields.get? "cmd").getD .null) reason none).imp_right
      (And.imp_right (hpart rfl))
  have harguments {fields : Table Value} (reason : String) :=
    (Failure.invalid_cases "backend.args" ((fields.get? "args").getD (.list [])) reason
      none).imp_right (And.imp_right (hpart rfl))
  unfold backendOf at h
  split at h
  · cases h
  · dsimp only at h
    split at h
    · split at h
      · split at h <;> cases h
        exact harguments _
      · cases h
        exact hcommand _
    · cases h
      exact hcommand _
  · cases h
    exact Failure.invalid_cases _ _ _ _

/-- A backend that is chosen fails only by its value. -/
theorem Sources.backend_eq_error {sources : Sources} {failure : Failure}
    (h : sources.backend = .error failure) :
    (∃ fault, failure = .fault fault) ∨
      failure = .longNumber ∧ sources.made? = none ∧
        ∃ value, sources.choice? "backend" = some value ∧ value.isUnwritable = true := by
  unfold Sources.backend at h
  split at h
  · cases h
  · next hmade =>
    rcases hvalue : sources.choice? "backend" with _ | value
    · rw [hvalue] at h
      cases h
    · rw [hvalue] at h
      exact (backendOf_eq_error h).imp_right fun ⟨hlong, hunwritable⟩ =>
        ⟨hlong, hmade, value, rfl, hunwritable⟩

section Load

variable {surroundings : Surroundings} {config? : Option PosixPath} {sources : Sources}

/-- The backend of merged settings is the one that is chosen. -/
theorem chosenBackend_eq {merged : Table Value}
    (h : ∀ key, merged.get? key = sources.choice? key) :
    chosenBackend sources.made? merged = sources.backend := by
  unfold chosenBackend Sources.backend
  rw [h]
  cases sources.made? <;> cases sources.choice? "backend" <;> rfl

/-- The keys of merged settings are those that some source has a value for. -/
theorem mem_keys_iff_defines {merged : Table Value}
    (h : ∀ key, merged.get? key = sources.choice? key) (key : String) :
    key ∈ merged.keys ↔ sources.Defines key := by
  rw [← sources.isSome_choice?_iff, ← h, Table.isSome_get?_iff]

variable (hoffers : surroundings.Offers config? sources)

include hoffers

/-- The settings that are loaded are those that the sources settle. -/
theorem loadSettings_eq_ok_iff {settings : Settings} :
    loadSettings surroundings config? sources.overrides sources.made? = .ok settings ↔
      surroundings.HasNamed config? ∧ sources.Settles settings := by
  rcases mergedSettings_cases hoffers with
    ⟨hnamed, merged, hmerged, hchoice⟩ | ⟨hmissing, path, hmerged⟩
  · simp only [loadSettings, bind_eq_ok_iff, mapError_eq_ok_iff, Settings.ofTable_eq_ok_iff,
      hmerged, mem_keys_iff_defines hchoice, Except.ok.injEq, exists_eq_left',
      chosenBackend_eq hchoice]
    have hvalues : merged.get? = sources.choice? := funext hchoice
    constructor
    · rintro ⟨backend?, hbackend, hknown, hfollows, rfl, hallowed⟩
      exact ⟨hnamed, hknown, hvalues ▸ hfollows, hbackend, hallowed⟩
    · rintro ⟨-, hsettles⟩
      exact ⟨_, hsettles.backend, hsettles.known, hvalues ▸ hsettles.follows, rfl,
        hsettles.allowed⟩
  · constructor
    · intro h
      obtain ⟨merged, hother, -⟩ := bind_eq_ok_iff.1 h
      rw [hmerged] at hother
      cases hother
    · rintro ⟨hnamed, -⟩
      exact absurd hnamed hmissing

/-- Loading that fails reports why, unless the backend that is chosen cannot be written. -/
theorem loadSettings_eq_error {failure : Failure}
    (h : loadSettings surroundings config? sources.overrides sources.made? = .error failure) :
    (∃ fault, failure = .fault fault) ∨
      failure = .longNumber ∧ sources.made? = none ∧
        ∃ value, sources.choice? "backend" = some value ∧ value.isUnwritable = true := by
  rw [loadSettings] at h
  -- Only what is wrong with the backend may be left unsaid; other failures are faults.
  rcases mergedSettings_cases hoffers with ⟨-, merged, hmerged, hchoice⟩ | ⟨-, path, hmerged⟩
  · rw [hmerged] at h
    dsimp only [bind, Except.bind] at h
    rw [chosenBackend_eq hchoice] at h
    rcases hbackend : sources.backend with cause | backend?
    · rw [hbackend] at h
      cases h
      exact Sources.backend_eq_error hbackend
    · rw [hbackend] at h
      dsimp only at h
      rcases hsettings : Settings.ofTable merged backend? with fault | settings
      · rw [hsettings] at h
        cases h
        exact Or.inl ⟨_, rfl⟩
      · rw [hsettings] at h
        cases h
  · rw [hmerged] at h
    cases h
    exact Or.inl ⟨_, rfl⟩

/-- Loading settings is a choice for each field. The settings that are loaded are just those that
the sources settle. A key that is no setting lets loading fail, in whichever source it stands; the
failure is reported, unless it is that the backend which is chosen cannot be written. -/
theorem loadSettings_settles :
    (∀ settings,
      loadSettings surroundings config? sources.overrides sources.made? = .ok settings ↔
        surroundings.HasNamed config? ∧ sources.Settles settings) ∧
    ∀ key, sources.Defines key → key ∉ Settings.keys → ∃ failure,
      loadSettings surroundings config? sources.overrides sources.made? = .error failure ∧
        ((∃ fault, failure = .fault fault) ∨
          failure = .longNumber ∧ sources.made? = none ∧
            ∃ value, sources.choice? "backend" = some value ∧ value.isUnwritable = true) := by
  refine ⟨fun settings => loadSettings_eq_ok_iff hoffers, fun key hdefines hunknown => ?_⟩
  rcases hload : loadSettings surroundings config? sources.overrides sources.made? with
    failure | settings
  · exact ⟨failure, rfl, loadSettings_eq_error hoffers hload⟩
  · obtain ⟨-, hsettles⟩ := (loadSettings_eq_ok_iff hoffers).1 hload
    exact absurd (hsettles.known key hdefines) hunknown

end Load

/-- Surroundings whose files and variables can be read offer sources, with any overrides. -/
theorem Surroundings.exists_offers {surroundings : Surroundings} {config? : Option PosixPath}
    (hhome : (optionalBuildTable surroundings.files
      (surroundings.home.join (.ofText homeFileName))).isOk = true)
    (hproject : (optionalBuildTable surroundings.files
      (surroundings.files.workingPath.join (.ofText configFileName))).isOk = true)
    (hnamed : ∀ path, config? = some path →
      (optionalBuildTable surroundings.files path).isOk = true)
    (hunderstood : ∀ setting ∈ settingVariables, ∀ text,
      surroundings.environment.get? setting.name = some text →
        (setting.kind.read text).isOk = true)
    {overrides : Table Value} (hoverrides : overrides.keys.Nodup)
    (made? : Option (Option Backend)) :
    ∃ sources, surroundings.Offers config? sources ∧ sources.overrides = overrides ∧
      sources.made? = made? := by
  have hexists {result : Except Failure (Table Value)} (h : result.isOk = true) :
      ∃ table, result = .ok table := by
    cases result with
    | error failure => cases h
    | ok table => exact ⟨table, rfl⟩
  obtain ⟨home, hhome⟩ := hexists hhome
  obtain ⟨project, hproject⟩ := hexists hproject
  -- Without a named configuration the table of its settings is empty.
  have hnamed : ∃ named, (config? = none → named = []) ∧ ∀ path, config? = some path →
      optionalBuildTable surroundings.files path = .ok named := by
    cases config? with
    | none => exact ⟨[], fun _ => rfl, nofun⟩
    | some path =>
      obtain ⟨named, hnamed⟩ := hexists (hnamed path rfl)
      refine ⟨named, nofun, fun other hother => ?_⟩
      cases hother
      exact hnamed
  obtain ⟨named, hunnamed, hnamed⟩ := hnamed
  exact ⟨{ home, project, named, environment := surroundings.environment, overrides
           overrides_nodup := hoverrides, made? },
    ⟨hhome, hproject, hunnamed, hnamed, rfl, hunderstood⟩, rfl, rfl⟩

/-- The sources are only brought together in surroundings that offer them. -/
theorem Surroundings.exists_offers_of_mergedSettings {surroundings : Surroundings}
    {config? : Option PosixPath} {overrides : Table Value} (hoverrides : overrides.keys.Nodup)
    (made? : Option (Option Backend)) {merged : Table Value}
    (h : mergedSettings surroundings config? overrides = .ok merged) :
    ∃ sources, surroundings.Offers config? sources ∧ sources.overrides = overrides ∧
      sources.made? = made? := by
  rw [mergedSettings] at h
  obtain ⟨home, hhome, h⟩ := bind_eq_ok_iff.1 h
  obtain ⟨project, hproject, h⟩ := bind_eq_ok_iff.1 h
  obtain ⟨named, hnamed, h⟩ := bind_eq_ok_iff.1 h
  obtain ⟨table, hvariables, -⟩ := bind_eq_ok_iff.1 h
  refine exists_offers (by rw [hhome]; rfl) (by rw [hproject]; rfl) (fun path hpath => ?_)
    (isOk_read_of_readVariables (mapError_eq_ok_iff.1 hvariables)) hoverrides made?
  rw [hpath, namedBuildTable] at hnamed
  rw [optionalBuildTable_of_required hnamed]
  rfl

/-- Settings are only loaded from surroundings that offer sources. -/
theorem Surroundings.exists_offers_of_loadSettings {surroundings : Surroundings}
    {config? : Option PosixPath} {overrides : Table Value} (hoverrides : overrides.keys.Nodup)
    {made? : Option (Option Backend)} {settings : Settings}
    (h : loadSettings surroundings config? overrides made? = .ok settings) :
    ∃ sources, surroundings.Offers config? sources ∧ sources.overrides = overrides ∧
      sources.made? = made? := by
  rw [loadSettings] at h
  obtain ⟨merged, hmerged, -⟩ := bind_eq_ok_iff.1 h
  exact exists_offers_of_mergedSettings hoverrides made? hmerged

/-- A configuration file at each of the places. The one in the home directory has a malformed
backend, which the one that is named overrides. -/
def FileTree.configured : FileTree where
  nodes := [
    (["home"], .directory),
    (["home", ".pedant.toml"], .file (Text.Utf8.encode "[build]\njobs = 4\nbackend = 1\n")),
    (["work"], .directory),
    (["work", "pedant.toml"], .file (Text.Utf8.encode "[build]\ncompiler = 'purs-new'\n")),
    (["work", "ci.toml"],
      .file (Text.Utf8.encode "[build]\nbackend = \x7b cmd = 'es' \x7d\njobs = 2\n"))]
  workingDirectory := ["work"]

/-- Surroundings with these files, where the environment sets the number of workers. -/
def Surroundings.configured : Surroundings where
  files := .configured
  home := .ofText "/home"
  environment := [("PEDANT_JOBS", "8"), ("PEDANT_BACKEND", "other")]

/-- What the command line gives to be quiet and verbose at once. -/
def contraryOverrides : Table Value :=
  [("verbose", .bool true), ("quiet", .bool true), ("output", .null)]

/-- These surroundings offer sources, whatever is overridden. -/
theorem Surroundings.exists_offers_configured {overrides : Table Value}
    (hoverrides : overrides.keys.Nodup) :
    ∃ sources, configured.Offers (some (.ofText "ci.toml")) sources ∧
      sources.overrides = overrides ∧ sources.made? = none := by
  refine exists_offers (by decide +kernel) (by decide +kernel) ?_ ?_ hoverrides none
  · intro path hpath
    rw [← Option.some.inj hpath]
    decide +kernel
  · have hall : ∀ setting ∈ settingVariables,
        (configured.environment.get? setting.name).all fun text =>
          (setting.kind.read text).isOk := by
      decide +kernel
    intro setting hsetting text htext
    have hunderstood := hall setting hsetting
    rwa [htext] at hunderstood

/-- Each value is that of the highest source, and a misspelled override lets loading fail. -/
theorem loadSettings_settles_configured :
    (∃ (sources : Sources) (settings : Settings),
      loadSettings .configured (some (.ofText "ci.toml")) contraryOverrides = .ok settings ∧
      sources.Settles settings ∧ settings.jobs = .int 8 ∧ settings.compiler = "purs-new" ∧
      settings.backend?.map (·.command) = some "es" ∧ settings.verbosity = .quiet) ∧
    ∃ failure,
      loadSettings .configured (some (.ofText "ci.toml")) [("job", .int 2)] = .error failure := by
  constructor
  · obtain ⟨sources, hoffers, hoverrides, hmade⟩ :=
      Surroundings.exists_offers_configured (show contraryOverrides.keys.Nodup by decide)
    have hloaded :
        (loadSettings .configured (some (.ofText "ci.toml")) contraryOverrides).toOption.map
          (fun settings => (settings.compiler, settings.backend?.map (·.command),
            settings.verbosity)) = some ("purs-new", some "es", .quiet) := by
      decide +kernel
    obtain ⟨settings, hload, hvalues⟩ := Option.map_eq_some_iff.1 hloaded
    rw [toOption_eq_some_iff] at hload
    obtain ⟨hcompiler, hrest⟩ := Prod.mk.inj hvalues
    obtain ⟨hbackend, hverbosity⟩ := Prod.mk.inj hrest
    obtain ⟨-, hsettles⟩ := ((loadSettings_settles hoffers).1 settings).1
      (by rw [hoverrides, hmade]; exact hload)
    -- The variable is the highest source that sets the number of workers.
    have hjobs : sources.choice? "jobs" = some (.int 8) := by
      rw [Sources.choice?, hoverrides, hoffers.environment]
      rfl
    refine ⟨sources, settings, hload, hsettles, ?_, hcompiler, hbackend, hverbosity⟩
    rw [hsettles.follows.jobs, hjobs]
    rfl
  · obtain ⟨sources, hoffers, hoverrides, hmade⟩ :=
      Surroundings.exists_offers_configured
        (show (Table.keys [("job", Value.int 2)]).Nodup by decide)
    have hdefines : sources.Defines "job" := by
      left
      rw [hoverrides]
      decide
    obtain ⟨failure, hfailure, -⟩ :=
      (loadSettings_settles hoffers).2 "job" hdefines (by decide)
    rw [hoverrides, hmade] at hfailure
    exact ⟨failure, hfailure⟩

end BuildAudit
