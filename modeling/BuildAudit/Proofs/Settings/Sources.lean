import BuildAudit.Proofs.Toml.Document
import BuildAudit.Settings.Load

/-!
# Sources of settings

`Sources` holds what the files, the environment and the overrides give. For each key the value of
the highest source that has one is chosen (`Sources.choice?`), and this is what the sources give
when they are laid over each other (`mergedSettings_cases`).
-/

namespace BuildAudit

/-- What is given for settings from the outside. -/
structure Sources where
  /-- The table of the configuration file in the home directory. -/
  home : Table Value
  /-- The table of the configuration file in the working directory. -/
  project : Table Value
  /-- The table of the configuration file that is named. -/
  named : Table Value
  /-- The environment variables. -/
  environment : Table String
  /-- The overrides. -/
  overrides : Table Value
  /-- A key is overridden once. -/
  overrides_nodup : overrides.keys.Nodup
  /-- A backend that is given ready-made, or that there is none. -/
  made? : Option (Option Backend)

/-- What the environment variables give for a setting. The backend and the arguments for the
compiler are not among what they can give. -/
def variableFor? (environment : Table String) (key : String) : Option Value :=
  match key with
  | "pedantic_packages" =>
    (environment.get? "PEDANT_PEDANTIC_PACKAGES").bind fun text => (readTruth? text).map .bool
  | "jobs" =>
    (environment.get? "PEDANT_JOBS").bind fun text => (Text.readInteger text).toOption.map .int
  | "output" => (environment.get? "PEDANT_OUTPUT").map .string
  | "compiler" => (environment.get? "PEDANT_COMPILER").map .string
  | "install_command" => (environment.get? "PEDANT_INSTALL_COMMAND").map .string
  | "verbosity" => (environment.get? "PEDANT_VERBOSITY").map .string
  | _ => none

/-- Whether overrides turn a switch on. -/
def turnsOn (overrides : Table Value) (switch : String) : Bool :=
  (overrides.get? switch).any Value.isOn

/-- What overrides give for a setting. The verbosity is that of a switch which is on, and being
quiet counts for more than being verbose. -/
def overrideFor? (overrides : Table Value) (key : String) : Option Value :=
  if key = "quiet" ∨ key = "verbose" then none
  else if key = "verbosity" ∧ turnsOn overrides "quiet" then some (.string "quiet")
  else if key = "verbosity" ∧ turnsOn overrides "verbose" then some (.string "verbose")
  else (overrides.get? key).filter isGiven

namespace Sources

variable (sources : Sources)

/-- The value of the highest source that has one for a key. -/
def choice? (key : String) : Option Value :=
  (overrideFor? sources.overrides key).or <| (variableFor? sources.environment key).or <|
    (sources.named.get? key).or <| (sources.project.get? key).or (sources.home.get? key)

/-- Some source has a value for a key. -/
def Defines (key : String) : Prop :=
  (overrideFor? sources.overrides key).isSome ∨ (variableFor? sources.environment key).isSome ∨
    key ∈ sources.named.keys ∨ key ∈ sources.project.keys ∨ key ∈ sources.home.keys

/-- The backend that is ready-made, or that of the value which is chosen. -/
def backend : Except Failure (Option Backend) :=
  match sources.made? with
  | some backend? => .ok backend?
  | none => backendOf ((sources.choice? "backend").getD .null)

/-- A value is chosen for the keys that some source has a value for. -/
theorem isSome_choice?_iff {key : String} :
    (sources.choice? key).isSome = true ↔ sources.Defines key := by
  simp only [choice?, Defines, Option.isSome_or, Bool.or_eq_true, Table.isSome_get?_iff]

end Sources

/-- The files of the surroundings give the tables of the sources, as far as they exist, and their
environment gives the variables, each with a text that is understood. -/
structure Surroundings.Offers (surroundings : Surroundings) (config? : Option PosixPath)
    (sources : Sources) : Prop where
  /-- The file in the home directory. -/
  home : optionalBuildTable surroundings.files (surroundings.home.join (.ofText homeFileName)) =
    .ok sources.home
  /-- The file in the working directory. -/
  project : optionalBuildTable surroundings.files
    (surroundings.files.workingPath.join (.ofText configFileName)) = .ok sources.project
  /-- No file is named. -/
  unnamed : config? = none → sources.named = []
  /-- The file that is named. -/
  named : ∀ path, config? = some path →
    optionalBuildTable surroundings.files path = .ok sources.named
  /-- The environment. -/
  environment : sources.environment = surroundings.environment
  /-- The variables are understood. -/
  understood : ∀ setting ∈ settingVariables, ∀ text,
    surroundings.environment.get? setting.name = some text →
      (setting.kind.read text).isOk = true

/-- The configuration file that is named exists, if there is one. -/
def Surroundings.HasNamed (surroundings : Surroundings) (config? : Option PosixPath) : Prop :=
  ∀ path, config? = some path → isPresent surroundings.files path = .ok true

section Tables

/-- The table of a configuration file has distinct keys. -/
theorem nodup_keys_buildTable {files : FileTree} {path : PosixPath} {table : Table Value}
    (h : buildTable files path = .ok table) : table.keys.Nodup := by
  unfold buildTable at h
  obtain ⟨document, hdocument, h⟩ := bind_eq_ok_iff.1 h
  rw [mapError_eq_ok_iff, readConfig] at hdocument
  obtain ⟨content, -, hread⟩ := bind_eq_ok_iff.1 hdocument
  have hdistinct := Toml.hasDistinctKeys_of_readOctets (mapError_eq_ok_iff.1 hread)
  split at h
  · cases h
    exact .nil
  · next table hget =>
    cases h
    exact (hdistinct.of_get? hget).nodup_keys
  · cases h

theorem nodup_keys_optionalBuildTable {files : FileTree} {path : PosixPath} {table : Table Value}
    (h : optionalBuildTable files path = .ok table) : table.keys.Nodup := by
  unfold optionalBuildTable at h
  obtain ⟨present, -, h⟩ := bind_eq_ok_iff.1 h
  split at h
  · exact nodup_keys_buildTable h
  · cases h
    exact .nil

/-- A file that must exist gives its table if it does, and is missed if it does not. -/
theorem requiredBuildTable_cases {files : FileTree} {path : PosixPath} {table : Table Value}
    (h : optionalBuildTable files path = .ok table) :
    (isPresent files path = .ok true ∧ requiredBuildTable files path = .ok table) ∨
      (isPresent files path = .ok false ∧
        requiredBuildTable files path = .error (.ofLoad (.noFile path.text))) := by
  unfold optionalBuildTable at h
  obtain ⟨present, hpresent, h⟩ := bind_eq_ok_iff.1 h
  rw [requiredBuildTable, hpresent]
  cases present with
  | true => exact Or.inl ⟨rfl, h⟩
  | false => exact Or.inr ⟨rfl, rfl⟩

/-- A file that must exist and is read gives the same table if it need not. -/
theorem optionalBuildTable_of_required {files : FileTree} {path : PosixPath} {table : Table Value}
    (h : requiredBuildTable files path = .ok table) :
    optionalBuildTable files path = .ok table := by
  unfold requiredBuildTable at h
  obtain ⟨present, hpresent, h⟩ := bind_eq_ok_iff.1 h
  rw [optionalBuildTable, hpresent]
  cases present with
  | true => exact h
  | false => cases h

end Tables

section Variables

/-- The value that an environment variable gives for its setting, if any. -/
def Variable.valueIn? (environment : Table String) (setting : Variable) : Option Value :=
  (environment.get? setting.name).bind fun text => (setting.kind.read text).toOption.join

/-- Variables that are understood give a table in which the value of a setting is that of its
variable. -/
theorem exists_readVariables {environment : Table String} {settings : List Variable}
    (hkeys : (settings.map (·.key)).Nodup)
    (h : ∀ setting ∈ settings, ∀ text, environment.get? setting.name = some text →
      (setting.kind.read text).isOk = true) :
    ∃ table, readVariables environment settings = .ok table ∧
      table.keys.Sublist (settings.map (·.key)) ∧
      ∀ setting ∈ settings, table.get? setting.key = setting.valueIn? environment := by
  induction settings with
  | nil => exact ⟨[], rfl, .slnil, fun _ hmem => by cases hmem⟩
  | cons first rest ih =>
    rw [List.map_cons, List.nodup_cons] at hkeys
    obtain ⟨hfirst, hrest⟩ := List.forall_mem_cons.1 h
    obtain ⟨table, hread, hsublist, hvalues⟩ := ih hkeys.2 hrest
    have habsent : table.get? first.key = none :=
      Table.get?_eq_none_iff.2 fun hmem => hkeys.1 (hsublist.subset hmem)
    -- Without a value of the first variable the table is that of the others.
    have hskip (hnone : first.valueIn? environment = none) :
        ∀ setting ∈ first :: rest, table.get? setting.key = setting.valueIn? environment :=
      List.forall_mem_cons.2 ⟨habsent.trans hnone.symm, hvalues⟩
    rw [readVariables]
    rcases htext : environment.get? first.name with _ | text
    · refine ⟨table, hread, hsublist.cons _, hskip ?_⟩
      rw [Variable.valueIn?, htext, Option.bind_none]
    · have hok := hfirst text htext
      rcases hvalue : first.kind.read text with fault | _ | value
      · rw [hvalue] at hok
        cases hok
      · refine ⟨table, ?_, hsublist.cons _, hskip ?_⟩
        · dsimp only
          rw [hvalue]
          exact hread
        · rw [Variable.valueIn?, htext, Option.bind_some, hvalue]
          rfl
      · refine ⟨(first.key, value) :: table, ?_, hsublist.cons_cons _, ?_⟩
        · dsimp only
          rw [hvalue, hread]
          rfl
        · refine List.forall_mem_cons.2 ⟨?_, fun setting hsetting => ?_⟩
          · rw [Table.get?_cons, if_pos rfl, Variable.valueIn?, htext, Option.bind_some, hvalue]
            rfl
          · have hne : setting.key ≠ first.key := fun heq =>
              hkeys.1 (heq ▸ List.mem_map_of_mem hsetting)
            rw [Table.get?_cons, if_neg hne, hvalues setting hsetting]

/-- Variables that give a table are understood. -/
theorem isOk_read_of_readVariables {environment : Table String} {settings : List Variable}
    {table : Table Value} (h : readVariables environment settings = .ok table) :
    ∀ setting ∈ settings, ∀ text, environment.get? setting.name = some text →
      (setting.kind.read text).isOk = true := by
  induction settings generalizing table with
  | nil => exact nofun
  | cons first rest ih =>
    rw [readVariables] at h
    rw [List.forall_mem_cons]
    rcases htext : environment.get? first.name with _ | text
    · rw [htext] at h
      exact ⟨nofun, ih h⟩
    · rw [htext] at h
      -- A variable that is not understood would have ended the reading.
      dsimp only at h
      rcases hvalue : first.kind.read text with fault | value?
      · rw [hvalue] at h
        cases h
      · have hfirst (other : String) (hother : some text = some other) :
            (first.kind.read other).isOk = true := by
          rw [← Option.some.inj hother, hvalue]
          rfl
        rw [hvalue] at h
        cases value? with
        | none => exact ⟨hfirst, ih h⟩
        | some value =>
          obtain ⟨others, hothers, -⟩ := map_eq_ok_iff.1 h
          exact ⟨hfirst, ih hothers⟩

@[simp]
theorem toOption_read_truth (text : String) :
    (VariableKind.truth.read text).toOption.join = (readTruth? text).map .bool := by
  rw [VariableKind.read]
  cases readTruth? text <;> rfl

@[simp]
theorem toOption_read_number (text : String) :
    (VariableKind.number.read text).toOption.join = (Text.readInteger text).toOption.map .int := by
  rw [VariableKind.read]
  cases Text.readInteger text <;> rfl

/-- What the environment gives for a setting is the value of its variable. -/
theorem variableFor?_eq_valueIn? (environment : Table String) {setting : Variable}
    (h : setting ∈ settingVariables) :
    variableFor? environment setting.key = setting.valueIn? environment := by
  have htext (name : String) : (environment.get? name).map .string =
      (environment.get? name).bind fun text => (VariableKind.text.read text).toOption.join :=
    Option.map_eq_bind
  have hcompound (name : String) : none =
      (environment.get? name).bind fun text => (VariableKind.compound.read text).toOption.join :=
    (Option.bind_fun_none _).symm
  simp only [settingVariables, List.mem_cons, List.not_mem_nil, or_false] at h
  rcases h with rfl | rfl | rfl | rfl | rfl | rfl | rfl | rfl
  · simp [variableFor?, Variable.valueIn?]
  · simp [variableFor?, Variable.valueIn?]
  · exact htext "PEDANT_OUTPUT"
  · exact htext "PEDANT_COMPILER"
  · exact hcompound "PEDANT_COMPILER_ARGS"
  · exact hcompound "PEDANT_BACKEND"
  · exact htext "PEDANT_INSTALL_COMMAND"
  · exact htext "PEDANT_VERBOSITY"

/-- The environment gives nothing for other keys. -/
theorem variableFor?_eq_none {environment : Table String} {key : String}
    (h : key ∉ settingVariables.map (·.key)) : variableFor? environment key = none := by
  unfold variableFor?
  split <;> simp_all [settingVariables]

/-- The table of the environment has what the variables give for each key. -/
theorem exists_readVariables_eq {environment : Table String}
    (h : ∀ setting ∈ settingVariables, ∀ text, environment.get? setting.name = some text →
      (setting.kind.read text).isOk = true) :
    ∃ table, readVariables environment settingVariables = .ok table ∧ table.keys.Nodup ∧
      ∀ key, table.get? key = variableFor? environment key := by
  have hkeys : (settingVariables.map (·.key)).Nodup := by decide
  obtain ⟨table, hread, hsublist, hvalues⟩ := exists_readVariables hkeys h
  refine ⟨table, hread, hkeys.sublist hsublist, fun key => ?_⟩
  by_cases hkey : key ∈ settingVariables.map (·.key)
  · obtain ⟨setting, hsetting, rfl⟩ := List.mem_map.1 hkey
    rw [hvalues setting hsetting, variableFor?_eq_valueIn? environment hsetting]
  · rw [variableFor?_eq_none hkey, Table.get?_eq_none_iff]
    exact fun hmem => hkey (hsublist.subset hmem)

end Variables

section Overrides

/-- What settings say after a switch among them has been resolved. -/
theorem get?_resolveSwitch (switch : String) (verbosity : Verbosity) (settings : Table Value)
    (key : String) :
    (resolveSwitch switch verbosity settings).get? key =
      if key = switch then none
      else if key = "verbosity" ∧ turnsOn settings switch then some (.string verbosity.name)
      else settings.get? key := by
  unfold resolveSwitch turnsOn
  rcases hget : settings.get? switch with _ | value
  · by_cases hkey : key = switch <;> simp [hkey, hget]
  · by_cases hkey : key = switch
    · simp [hkey, Table.get?_erase]
    · by_cases hon : value.isOn = true
      · simp [hkey, hon, Table.get?_erase, Table.get?_insert]
      · simp [hkey, hon, Table.get?_erase]

theorem nodup_keys_resolveSwitch {settings : Table Value} (h : settings.keys.Nodup)
    (switch : String) (verbosity : Verbosity) :
    (resolveSwitch switch verbosity settings).keys.Nodup := by
  unfold resolveSwitch
  split
  · exact h
  · split
    · exact Table.nodup_keys_filter (Table.nodup_keys_insert h _ _) _
    · exact Table.nodup_keys_filter h _

/-- Resolving a switch leaves another one as it is. -/
theorem turnsOn_resolveSwitch {switch other : String} (hother : other ≠ "verbosity")
    (hne : other ≠ switch) (verbosity : Verbosity) (settings : Table Value) :
    turnsOn (resolveSwitch switch verbosity settings) other = turnsOn settings other := by
  simp [turnsOn, get?_resolveSwitch, hother, hne]

/-- What overrides say once they are resolved is what they give. -/
theorem get?_resolveOverrides {overrides : Table Value} (h : overrides.keys.Nodup)
    (key : String) : (resolveOverrides overrides).get? key = overrideFor? overrides key := by
  have hverbose := nodup_keys_resolveSwitch h "verbose" .verbose
  have hquiet : turnsOn (resolveSwitch "verbose" .verbose overrides) "quiet" =
      turnsOn overrides "quiet" :=
    turnsOn_resolveSwitch (by decide) (by decide) _ _
  rw [resolveOverrides, Table.get?_filter (nodup_keys_resolveSwitch hverbose _ _),
    get?_resolveSwitch, get?_resolveSwitch, hquiet, overrideFor?]
  -- A switch leaves no value of its own, and only the verbosity follows the switches.
  by_cases hswitch : key = "quiet" ∨ key = "verbose"
  · rcases hswitch with rfl | rfl <;> simp
  · obtain ⟨hnotQuiet, hnotVerbose⟩ := not_or.1 hswitch
    simp only [hnotQuiet, hnotVerbose, if_false, or_self]
    by_cases hquiet : key = "verbosity" ∧ turnsOn overrides "quiet" = true
    · rw [if_pos hquiet, if_pos hquiet]
      rfl
    · rw [if_neg hquiet, if_neg hquiet]
      by_cases hverbose : key = "verbosity" ∧ turnsOn overrides "verbose" = true
      · rw [if_pos hverbose, if_pos hverbose]
        rfl
      · rw [if_neg hverbose, if_neg hverbose]

theorem nodup_keys_resolveOverrides {overrides : Table Value} (h : overrides.keys.Nodup) :
    (resolveOverrides overrides).keys.Nodup :=
  Table.nodup_keys_filter
    (nodup_keys_resolveSwitch (nodup_keys_resolveSwitch h _ _) _ _) _

end Overrides

section Merged

variable {surroundings : Surroundings} {config? : Option PosixPath} {sources : Sources}
variable (hoffers : surroundings.Offers config? sources)

include hoffers

theorem Surroundings.Offers.nodup_named : sources.named.keys.Nodup := by
  cases hconfig : config? with
  | none =>
    rw [hoffers.unnamed hconfig]
    exact .nil
  | some path => exact nodup_keys_optionalBuildTable (hoffers.named path hconfig)

/-- The file that is named gives its table if it exists, and is missed if it does not. -/
theorem namedBuildTable_cases :
    (surroundings.HasNamed config? ∧
      namedBuildTable surroundings.files config? = .ok sources.named) ∨
      (¬ surroundings.HasNamed config? ∧ ∃ path,
        namedBuildTable surroundings.files config? = .error (.ofLoad (.noFile path))) := by
  cases config? with
  | none =>
    refine Or.inl ⟨nofun, ?_⟩
    rw [namedBuildTable, hoffers.unnamed rfl]
  | some path =>
    rcases requiredBuildTable_cases (hoffers.named path rfl) with
      ⟨hpresent, htable⟩ | ⟨habsent, herror⟩
    · refine Or.inl ⟨fun other hother => ?_, htable⟩
      cases hother
      exact hpresent
    · refine Or.inr ⟨fun hnamed => ?_, path.text, herror⟩
      rw [hnamed path rfl] at habsent
      cases habsent

/-- The sources laid over each other have the values that are chosen, unless the file that is named
is missing. -/
theorem mergedSettings_cases :
    (surroundings.HasNamed config? ∧ ∃ merged,
      mergedSettings surroundings config? sources.overrides = .ok merged ∧
        ∀ key, merged.get? key = sources.choice? key) ∨
      (¬ surroundings.HasNamed config? ∧ ∃ path,
        mergedSettings surroundings config? sources.overrides =
          .error (.ofLoad (.noFile path))) := by
  obtain ⟨ofEnvironment, hread, hvariables, hvalues⟩ := exists_readVariables_eq hoffers.understood
  rw [mergedSettings]
  dsimp only [bind, Except.bind]
  rw [hoffers.home, hoffers.project, hread]
  rcases namedBuildTable_cases hoffers with ⟨hhas, hnamed⟩ | ⟨hlacks, path, hnamed⟩
  · refine Or.inl ⟨hhas, _, by rw [hnamed]; rfl, fun key => ?_⟩
    -- Each table on top is asked first.
    rw [Table.get?_overlay _ (nodup_keys_resolveOverrides sources.overrides_nodup),
      Table.get?_overlay _ hvariables, Table.get?_overlay _ hoffers.nodup_named,
      Table.get?_overlay _ (nodup_keys_optionalBuildTable hoffers.project),
      Table.get?_overlay _ (nodup_keys_optionalBuildTable hoffers.home),
      get?_resolveOverrides sources.overrides_nodup, hvalues, ← hoffers.environment]
    simp [Sources.choice?, Table.get?]
  · exact Or.inr ⟨hlacks, path, by rw [hnamed]⟩

end Merged

end BuildAudit
