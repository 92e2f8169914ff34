import BuildAudit.Proofs.Build.Forwards
import BuildAudit.Proofs.Graph.Decode
import BuildAudit.Proofs.Settings.Load

/-!
# Settings of the right kinds

Settings are typed if the number of workers is a whole one, the switch for the audit a truth value
and the arguments for the compiler are the texts that were configured (`Settings.IsTyped`). A build
with such settings does not fail for the kind of a value, and passes each argument on whole.

Loading looks into the texts among the settings only. A number of workers only has to compare with
one, the switch may be anything, and whatever lists items may stand for arguments. So settings that
are loaded are typed just if the sources give values of the right kinds for these three
(`isTyped_iff`), and a text in place of the arguments is taken apart
(`not_isTyped_textual`).
-/

namespace BuildAudit

/-- Settings have values of the right kinds, given what was configured as arguments for the
compiler. -/
structure Settings.IsTyped (settings : Settings) (configured? : Option Value) : Prop where
  /-- The number of workers is whole and at least one. -/
  jobs : ∃ count : Int, settings.jobs = .int count ∧ 1 ≤ count
  /-- The switch for the audit is a truth value. -/
  auditAll : ∃ on, settings.auditAll = .bool on
  /-- The compiler's command is not blank. -/
  compiler : Text.isBlankText settings.compiler = false
  /-- The output directory is not blank, if there is one. -/
  output : ∀ output, settings.output? = some output → Text.isBlankText output = false
  /-- The arguments are the texts that were configured. -/
  arguments : ∃ texts : List String, configured?.getD (.list []) = .list (texts.map .string) ∧
    settings.compilerArguments = texts.map .string
  /-- Builds do not fail for the kind of a value and pass the arguments on. -/
  builds : ∀ workspace (toolchain : Toolchain) processes options,
    Forwards settings.textArguments id
      (runBuild workspace settings (toolchain.tools processes) options)

/-- The values that are chosen for the settings that loading does not look into have the right
kinds. -/
structure Sources.AreTyped (sources : Sources) : Prop where
  /-- The number of workers is whole. -/
  jobs : ∀ value, sources.choice? "jobs" = some value → ∃ count, value = .int count
  /-- The switch for the audit is a truth value. -/
  auditAll : ∀ value, sources.choice? "pedantic_packages" = some value → ∃ on, value = .bool on
  /-- The arguments for the compiler are a list of texts. -/
  arguments : ∀ value, sources.choice? "compiler_args" = some value →
    ∃ texts : List String, value = .list (texts.map .string)

/-- Settings that are settled by values of the right kinds are typed. -/
theorem Sources.Settles.isTyped {sources : Sources} {settings : Settings}
    (h : sources.Settles settings) (htyped : sources.AreTyped) :
    settings.IsTyped (sources.choice? "compiler_args") := by
  -- The standard values have the right kinds too.
  have hdefault {key : String} {P : Value → Prop} {standard : Value} (hstandard : P standard)
      (hvalue : ∀ value, sources.choice? key = some value → P value) :
      P ((sources.choice? key).getD standard) := by
    rcases hchoice : sources.choice? key with _ | value
    · exact hstandard
    · exact hvalue value hchoice
  obtain ⟨count, hcount⟩ : ∃ count : Int, settings.jobs = .int count := by
    rw [h.follows.jobs]
    exact hdefault ⟨1, rfl⟩ htyped.jobs
  obtain ⟨texts, htexts⟩ : ∃ texts : List String,
      (sources.choice? "compiler_args").getD (.list []) = .list (texts.map .string) :=
    hdefault ⟨[], rfl⟩ htyped.arguments
  have harguments : settings.compilerArguments = texts.map .string := by
    have hitems := h.follows.arguments
    rw [Settings.standard, htexts] at hitems
    exact Option.some.inj hitems
  have hforwarded : settings.textArguments = texts := by
    rw [Settings.textArguments, harguments, List.filterMap_map]
    exact List.filterMap_some
  have hpositive : 1 ≤ count := by
    have hallowed := h.allowed.jobs
    rw [hcount, Settings.isBelowOne?, Option.some_inj, decide_eq_false_iff_not] at hallowed
    omega
  have haudit : ∃ on, settings.auditAll = .bool on := by
    rw [h.follows.auditAll]
    exact hdefault ⟨false, rfl⟩ htyped.auditAll
  refine ⟨⟨count, hcount, hpositive⟩, haudit, h.allowed.compiler, h.allowed.output,
    ⟨texts, htexts, harguments⟩, fun workspace toolchain processes options => ?_⟩
  rw [hforwarded]
  exact forwards_runBuild workspace (toolchain.failsOtherwise processes) harguments h.allowed.jobs
    options

/-- Typed settings are settled by values of the right kinds. -/
theorem Sources.Settles.areTyped {sources : Sources} {settings : Settings}
    (h : sources.Settles settings)
    (htyped : settings.IsTyped (sources.choice? "compiler_args")) : sources.AreTyped where
  jobs value hvalue := by
    obtain ⟨count, hcount, -⟩ := htyped.jobs
    rw [h.follows.jobs, hvalue] at hcount
    exact ⟨count, hcount⟩
  auditAll value hvalue := by
    obtain ⟨on, hon⟩ := htyped.auditAll
    rw [h.follows.auditAll, hvalue] at hon
    exact ⟨on, hon⟩
  arguments value hvalue := by
    obtain ⟨texts, htexts, -⟩ := htyped.arguments
    rw [hvalue] at htexts
    exact ⟨texts, htexts⟩

/-- Settings that are loaded are typed just if the sources give values of the right kinds. -/
theorem isTyped_iff {surroundings : Surroundings} {config? : Option PosixPath}
    {overrides : Table Value} (hoverrides : overrides.keys.Nodup)
    {made? : Option (Option Backend)} {settings : Settings}
    (h : loadSettings surroundings config? overrides made? = .ok settings) :
    ∃ sources, surroundings.Offers config? sources ∧ sources.overrides = overrides ∧
      sources.made? = made? ∧
      (settings.IsTyped (sources.choice? "compiler_args") ↔ sources.AreTyped) := by
  obtain ⟨sources, hoffers, rfl, rfl⟩ := Surroundings.exists_offers_of_loadSettings hoverrides h
  obtain ⟨-, hsettles⟩ := (loadSettings_eq_ok_iff hoffers).1 h
  exact ⟨sources, hoffers, rfl, rfl, hsettles.areTyped, hsettles.isTyped⟩

/-- Surroundings whose only file is the configuration in the working directory. -/
def Surroundings.ofProject (content : String) : Surroundings where
  files := {
    nodes := [
      (["home"], .directory),
      (["project"], .directory),
      (["project", "pedant.toml"], .file (Text.Utf8.encode content))]
    workingDirectory := ["project"] }
  home := .ofText "/home"
  environment := []

/-- The settings of the file in such surroundings. -/
def projectTable (content : String) : Except Failure (Table Value) :=
  optionalBuildTable (Surroundings.ofProject content).files (.ofText "/project/pedant.toml")

/-- In such surroundings what the file gives is chosen. -/
theorem Surroundings.Offers.choice?_ofProject {content : String} {sources : Sources}
    (hoffers : (Surroundings.ofProject content).Offers none sources)
    (hoverrides : sources.overrides = []) {project : Table Value}
    (hproject : projectTable content = .ok project) (key : String) :
    sources.choice? key = project.get? key := by
  have hoverride : overrideFor? [] key = none := by
    simp [overrideFor?, turnsOn, Table.get?]
  have hvariable : variableFor? [] key = none := by
    unfold variableFor?
    split <;> rfl
  have hgiven : sources.project = project := Except.ok.inj (hoffers.project.symm.trans hproject)
  have hhome : sources.home = [] := Except.ok.inj (hoffers.home.symm.trans rfl)
  have henvironment : sources.environment = [] := hoffers.environment
  rw [Sources.choice?, hoverrides, hoverride, henvironment, hvariable, hoffers.unnamed rfl, hgiven,
    hhome]
  exact Option.or_none

/-- Arguments in a list are taken as they are. -/
theorem isTyped_iff_listed :
    ∃ (sources : Sources) (settings : Settings),
      (Surroundings.ofProject "[build]\ncompiler_args = ['--strict']\n").Offers none sources ∧
      loadSettings (.ofProject "[build]\ncompiler_args = ['--strict']\n") none [] = .ok settings ∧
      sources.choice? "compiler_args" = some (.list [.string "--strict"]) ∧
      settings.IsTyped (sources.choice? "compiler_args") := by
  have hread : (projectTable "[build]\ncompiler_args = ['--strict']\n").toOption.map
      (fun project => (project.keys, (project.get? "compiler_args").bind Value.asStrings?)) =
        some (["compiler_args"], some ["--strict"]) := by
    decide +kernel
  have hloaded : (loadSettings (.ofProject "[build]\ncompiler_args = ['--strict']\n") none
      []).toOption.isSome = true := by
    decide +kernel
  obtain ⟨project, hproject, hvalues⟩ := Option.map_eq_some_iff.1 hread
  obtain ⟨settings, hsettings⟩ := Option.isSome_iff_exists.1 hloaded
  rw [toOption_eq_some_iff] at hproject hsettings
  obtain ⟨sources, hoffers, hoverrides, -, hiff⟩ :=
    isTyped_iff (show (Table.keys ([] : Table Value)).Nodup from .nil) hsettings
  have hchosen := hoffers.choice?_ofProject hoverrides hproject
  obtain ⟨hkeys, hlist⟩ := Prod.mk.inj hvalues
  have harguments : sources.choice? "compiler_args" = some (.list [.string "--strict"]) := by
    obtain ⟨value, hvalue, htexts⟩ := Option.bind_eq_some_iff.1 hlist
    rw [hchosen, hvalue, Value.asStrings?_eq_some_iff.1 htexts]
    rfl
  -- The file gives nothing for the other settings.
  have habsent {key : String} (hkey : key ∉ ["compiler_args"]) : sources.choice? key = none := by
    rw [hchosen]
    exact Table.get?_eq_none_iff.2 (hkeys ▸ hkey)
  refine ⟨sources, settings, hoffers, hsettings, harguments, hiff.2 ⟨?_, ?_, ?_⟩⟩
  · rw [habsent (by decide)]
    exact nofun
  · rw [habsent (by decide)]
    exact nofun
  · rw [harguments]
    rintro _ ⟨⟩
    exact ⟨["--strict"], rfl⟩

/-- A text in place of the arguments is accepted and taken apart into its characters. -/
theorem not_isTyped_textual :
    ∃ (sources : Sources) (settings : Settings),
      (Surroundings.ofProject "[build]\ncompiler_args = '--strict'\n").Offers none sources ∧
      loadSettings (.ofProject "[build]\ncompiler_args = '--strict'\n") none [] = .ok settings ∧
      sources.choice? "compiler_args" = some (.string "--strict") ∧
      settings.compilerArguments = ["-", "-", "s", "t", "r", "i", "c", "t"].map .string ∧
      ¬ settings.IsTyped (sources.choice? "compiler_args") := by
  have hread : (projectTable "[build]\ncompiler_args = '--strict'\n").toOption.bind
      (fun project => (project.get? "compiler_args").bind Value.asString?) = some "--strict" := by
    decide +kernel
  have hloaded : (loadSettings (.ofProject "[build]\ncompiler_args = '--strict'\n") none
      []).toOption.isSome = true := by
    decide +kernel
  obtain ⟨project, hproject, htext⟩ := Option.bind_eq_some_iff.1 hread
  obtain ⟨settings, hsettings⟩ := Option.isSome_iff_exists.1 hloaded
  rw [toOption_eq_some_iff] at hproject hsettings
  obtain ⟨sources, hoffers, hoverrides, hmade⟩ := Surroundings.exists_offers_of_loadSettings
    (show (Table.keys ([] : Table Value)).Nodup from .nil) hsettings
  -- No source above the project's file says anything of the arguments.
  have hchoice : sources.choice? "compiler_args" = some (.string "--strict") := by
    obtain ⟨value, hvalue, hstring⟩ := Option.bind_eq_some_iff.1 htext
    rw [hoffers.choice?_ofProject hoverrides hproject, hvalue]
    cases value <;> cases hstring
    rfl
  refine ⟨sources, settings, hoffers, hsettings, hchoice, ?_, fun htyped => ?_⟩
  · rw [← hoverrides, ← hmade, loadSettings_eq_ok_iff hoffers] at hsettings
    -- The settings follow the text as if it were the list of its characters.
    have hitems := hsettings.2.follows.arguments
    rw [hchoice] at hitems
    exact Option.some.inj hitems
  · obtain ⟨texts, hlist, -⟩ := htyped.arguments
    rw [hchoice] at hlist
    cases hlist

end BuildAudit
