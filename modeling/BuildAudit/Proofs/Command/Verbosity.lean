import BuildAudit.Command.Run
import BuildAudit.Proofs.Settings.Typed

/-!
# The verbosity of a command

A verbosity stands for the least level of the records that are told. Which records a command tells
is decided by the switches of its command line alone, before the settings are loaded. The switches
are among the sources of the settings, above all others, so a switch that is given decides both
alike; without a switch the settings may have another verbosity, from a file or the environment,
that has no effect (`visibleRecords_run_iff`).
-/

namespace BuildAudit

namespace Verbosity

/-- The least level of the records that are told. -/
def threshold : Verbosity → Level
  | .quiet => .error
  | .normal => .info
  | .verbose => .debug

/-- Whether records of a level are told with a verbosity but not with the normal one, or the other
way round. -/
def differsAt : Verbosity → Level → Bool
  | .verbose, .debug => true
  | .quiet, .info => true
  | .quiet, .warning => true
  | _, _ => false

/-- Verbosities with the same name are the same. -/
theorem name_inj {verbosity other : Verbosity} :
    verbosity.name = other.name ↔ verbosity = other := by
  cases verbosity <;> cases other <;> decide

/-- Verbosities with the same least level are the same. -/
theorem threshold_inj {verbosity other : Verbosity} :
    verbosity.threshold = other.threshold ↔ verbosity = other := by
  cases verbosity <;> cases other <;> decide

/-- Where a verbosity and the normal one let the same records through. -/
theorem passes_normal_iff {verbosity : Verbosity} {level : Level} :
    normal.threshold.passes level = verbosity.threshold.passes level ↔
      verbosity.differsAt level = false := by
  cases verbosity <;> cases level <;> decide

end Verbosity

/-- Two thresholds let the same of some records through just if they agree on the level of each. -/
theorem passing_eq_passing_iff {first second : Level} {records : List LogRecord} :
    passing first records = passing second records ↔
      ∀ record ∈ records, first.passes record.level = second.passes record.level := by
  constructor
  · intro h record hrecord
    have hmem : record ∈ passing first records ↔ record ∈ passing second records := by
      rw [h]
    rw [Bool.eq_iff_iff]
    simpa [passing, hrecord] using hmem
  · exact fun h => List.filter_congr h

namespace Command

section Overrides

variable {arguments : BuildArguments}

/-- The options override each setting once. -/
theorem nodup_keys_overridesOf : (overridesOf arguments).keys.Nodup := by
  unfold overridesOf
  cases arguments.auditAll <;> cases arguments.jobs? <;> simp [Table.keys]

theorem turnsOn_overridesOf_quiet : turnsOn (overridesOf arguments) "quiet" = arguments.quiet := by
  simp [turnsOn, overridesOf, Table.get?, List.lookup_cons, Value.isOn]

theorem turnsOn_overridesOf_verbose :
    turnsOn (overridesOf arguments) "verbose" = arguments.verbose := by
  simp [turnsOn, overridesOf, Table.get?, Value.isOn]

end Overrides

variable {host : Host} {files : FileTree} {line : List String} {arguments : BuildArguments}
variable {settings : Settings}

/-- A switch that is given decides the verbosity of the settings. -/
theorem verbosity_of_switch (hload : settingsFor host files arguments = .ok settings)
    (hswitch : arguments.verbose = true ∨ arguments.quiet = true) :
    settings.verbosity = if arguments.quiet then .quiet else .verbose := by
  rw [settingsFor] at hload
  obtain ⟨sources, hoffers, hoverrides, hmade⟩ :=
    Surroundings.exists_offers_of_loadSettings nodup_keys_overridesOf hload
  rw [← hoverrides, ← hmade] at hload
  obtain ⟨-, hsettles⟩ := (loadSettings_eq_ok_iff hoffers).1 hload
  have hverbosity := hsettles.follows.verbosity
  -- The switches are asked before all other sources.
  rw [Sources.choice?, hoverrides, overrideFor?, turnsOn_overridesOf_quiet,
    turnsOn_overridesOf_verbose] at hverbosity
  rw [← Verbosity.name_inj]
  by_cases hquiet : arguments.quiet = true
  · simpa [hquiet, Verbosity.name] using hverbosity
  · have hverbose := hswitch.resolve_right hquiet
    simpa [hquiet, hverbose, Verbosity.name] using hverbosity

/-- Without a switch the records are told that are told normally. -/
theorem logThreshold_of_no_switch (h : ¬ (arguments.verbose = true ∨ arguments.quiet = true)) :
    logThreshold arguments.verbose arguments.quiet = Verbosity.normal.threshold := by
  obtain ⟨hverbose, hquiet⟩ := not_or.1 h
  simp [logThreshold, hverbose, hquiet, Verbosity.threshold]

/-- The level of the records that are told is that of the verbosity of the settings just if a switch
is given or that verbosity is the normal one. -/
theorem logThreshold_eq_iff (hload : settingsFor host files arguments = .ok settings) :
    logThreshold arguments.verbose arguments.quiet = settings.verbosity.threshold ↔
      (arguments.verbose = true ∨ arguments.quiet = true) ∨ settings.verbosity = .normal := by
  by_cases hswitch : arguments.verbose = true ∨ arguments.quiet = true
  · rw [verbosity_of_switch hload hswitch, logThreshold]
    simp only [hswitch, true_or, iff_true]
    by_cases hquiet : arguments.quiet = true
    · simp [hquiet, Verbosity.threshold]
    · simp [hquiet, hswitch.resolve_right hquiet, Verbosity.threshold]
  · rw [logThreshold_of_no_switch hswitch, Verbosity.threshold_inj, eq_comm]
    exact (or_iff_right hswitch).symm

/-- The verbosity of the settings has its effect on what is told just if it is that of a switch or
the normal one; another one only makes no difference to a run with no record at a level where it
differs from the normal one. -/
theorem visibleRecords_run_iff (hread : readCommandLine line = .build arguments)
    (hload : settingsFor host files arguments = .ok settings) :
    (logThreshold arguments.verbose arguments.quiet = settings.verbosity.threshold ↔
      (arguments.verbose = true ∨ arguments.quiet = true) ∨ settings.verbosity = .normal) ∧
    (visibleRecords line (run host line { files }).session.records =
        passing settings.verbosity.threshold (run host line { files }).session.records ↔
      (arguments.verbose = true ∨ arguments.quiet = true) ∨
        ∀ record ∈ (run host line { files }).session.records,
          settings.verbosity.differsAt record.level = false) := by
  refine ⟨logThreshold_eq_iff hload, ?_⟩
  generalize (run host line { files }).session.records = records
  have hvisible : visibleRecords line records =
      passing (logThreshold arguments.verbose arguments.quiet) records := by
    rw [visibleRecords, hread]
  rw [hvisible]
  by_cases hswitch : arguments.verbose = true ∨ arguments.quiet = true
  · rw [(logThreshold_eq_iff hload).2 (Or.inl hswitch)]
    simp only [hswitch, true_or]
  · rw [logThreshold_of_no_switch hswitch, passing_eq_passing_iff, or_iff_right hswitch]
    simp only [Verbosity.passes_normal_iff]

/-- A host on which every process succeeds and the environment asks for quiet. -/
def Host.quiet : Host where
  home := .ofText "/home"
  environment := [("PEDANT_VERBOSITY", "quiet")]
  processes := ProcessScript.processes { runs := [], captures := [] }

/-- The files of a workspace with one package. -/
def workspaceFiles : FileTree :=
  (Surroundings.ofProject "[[workspace.packages]]\nname = 'app'\npath = 'app'\n").files

/-- A switch counts for more than the environment, for what is told and for the settings. -/
theorem visibleRecords_run_iff_verbose :
    ∃ arguments settings, readCommandLine ["build", "-v"] = .build arguments ∧
      settingsFor .quiet workspaceFiles arguments = .ok settings ∧ settings.verbosity = .verbose ∧
      visibleRecords ["build", "-v"]
          (run .quiet ["build", "-v"] { files := workspaceFiles }).session.records =
        passing .debug
          (run .quiet ["build", "-v"] { files := workspaceFiles }).session.records := by
  have hverbose : ∃ arguments, readCommandLine ["build", "-v"] = .build arguments ∧
      arguments.verbose = true ∧ ((settingsFor .quiet workspaceFiles arguments).toOption.map
        (·.verbosity)) = some .verbose :=
    ⟨_, rfl, rfl, by decide +kernel⟩
  obtain ⟨arguments, hread, hswitch, hloaded⟩ := hverbose
  obtain ⟨settings, hload, hverbosity⟩ := Option.map_eq_some_iff.1 hloaded
  rw [toOption_eq_some_iff] at hload
  have hvisible := (visibleRecords_run_iff hread hload).2.2 (Or.inl (Or.inl hswitch))
  rw [hverbosity] at hvisible
  exact ⟨arguments, settings, hread, hload, hverbosity, hvisible⟩

/-- Without a switch the environment asks for quiet in vain. -/
theorem visibleRecords_run_ne_quiet :
    ∃ arguments settings, readCommandLine ["build"] = .build arguments ∧
      settingsFor .quiet workspaceFiles arguments = .ok settings ∧ settings.verbosity = .quiet ∧
      visibleRecords ["build"] (run .quiet ["build"] { files := workspaceFiles }).session.records ≠
        passing settings.verbosity.threshold
          (run .quiet ["build"] { files := workspaceFiles }).session.records := by
  have hquiet : ∃ arguments, readCommandLine ["build"] = .build arguments ∧
      ((settingsFor .quiet workspaceFiles arguments).toOption.map (·.verbosity)) = some .quiet :=
    ⟨_, rfl, by decide +kernel⟩
  obtain ⟨arguments, hread, hloaded⟩ := hquiet
  obtain ⟨settings, hload, hverbosity⟩ := Option.map_eq_some_iff.1 hloaded
  refine ⟨arguments, settings, hread, toOption_eq_some_iff.1 hload, hverbosity, ?_⟩
  -- The build tells that it starts, which is no error.
  rw [hverbosity]
  decide +kernel

end Command

end BuildAudit
