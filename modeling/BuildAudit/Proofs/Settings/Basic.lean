import BuildAudit.Proofs.Checks
import BuildAudit.Proofs.Table
import BuildAudit.Settings.Basic

/-!
# Settings of a table

Settings are made of a table just if all its keys are settings, their fields follow its values, and
they are allowed (`ofTable_eq_ok_iff`). `Follows` says which field follows which key, and what holds
without a value; `IsAllowed` says which values are refused although they have the right kind.
-/

namespace BuildAudit

/-- A verbosity is found by its name. -/
theorem Verbosity.ofName?_eq_some_iff {name : String} {verbosity : Verbosity} :
    ofName? name = some verbosity ↔ name = verbosity.name := by
  constructor
  · intro h
    unfold ofName? at h
    split at h <;> cases h <;> rfl
  · rintro rfl
    cases verbosity <;> rfl

namespace Settings

/-- The settings that hold if nothing is given. -/
def standard : Settings := {}

/-- The fields of settings are the values chosen for their keys, or the standard ones. -/
structure Follows (settings : Settings) (choice? : String → Option Value) : Prop where
  /-- The switch for the audit is taken as it is. -/
  auditAll : settings.auditAll = (choice? "pedantic_packages").getD standard.auditAll
  /-- The number of workers is taken as it is. -/
  jobs : settings.jobs = (choice? "jobs").getD standard.jobs
  /-- The output directory is a text, or absent. -/
  output : (settings.output?.map .string).getD .null = (choice? "output").getD .null
  /-- The compiler's command is a text. -/
  compiler : .string settings.compiler =
    (choice? "compiler").getD (.string standard.compiler)
  /-- The arguments for the compiler are the items that the value lists. -/
  arguments : some settings.compilerArguments =
    sequence? ((choice? "compiler_args").getD (.list standard.compilerArguments))
  /-- The suggested command is a text. -/
  installCommand : .string settings.installCommand =
    (choice? "install_command").getD (.string standard.installCommand)
  /-- The verbosity is given by its name. -/
  verbosity : .string settings.verbosity.name =
    (choice? "verbosity").getD (.string standard.verbosity.name)

/-- Settings whose values are not refused. -/
structure IsAllowed (settings : Settings) : Prop where
  /-- The number of workers compares with one, and is not below it. -/
  jobs : isBelowOne? settings.jobs = some false
  /-- The compiler's command is not blank. -/
  compiler : Text.isBlankText settings.compiler = false
  /-- The output directory is not blank. -/
  output : ∀ output, settings.output? = some output → Text.isBlankText output = false

theorem textOf_eq_ok_iff {fields : Table Value} {key default text : String} :
    textOf fields key default = .ok text ↔
      (fields.get? key).getD (.string default) = .string text := by
  unfold textOf
  split <;> simp_all

theorem textOf?_eq_ok_iff {fields : Table Value} {key : String} {text? : Option String} :
    textOf? fields key = .ok text? ↔
      (text?.map .string).getD .null = (fields.get? key).getD .null := by
  unfold textOf?
  generalize fields.get? key = value?
  split <;> cases text? <;> simp_all [eq_comm]

theorem checkJobs_eq_ok_iff {jobs : Value} {done : Unit} :
    checkJobs jobs = .ok done ↔ isBelowOne? jobs = some false := by
  unfold checkJobs
  split <;> simp_all

theorem checkVisible_eq_ok_iff {fault : SettingsFault} {text : String} {done : Unit} :
    checkVisible fault text = .ok done ↔ Text.isBlankText text = false := by
  unfold checkVisible
  split <;> simp_all

theorem checkOutput_eq_ok_iff {output? : Option String} {done : Unit} :
    checkOutput output? = .ok done ↔
      ∀ output, output? = some output → Text.isBlankText output = false := by
  cases output? <;> simp [checkOutput, checkVisible_eq_ok_iff]

theorem verbosityOf_eq_ok_iff {value : Value} {verbosity : Verbosity} :
    verbosityOf value = .ok verbosity ↔ value = .string verbosity.name := by
  have hname : value.asString?.bind Verbosity.ofName? = some verbosity ↔
      value = .string verbosity.name := by
    cases value <;> simp [Value.asString?, Verbosity.ofName?_eq_some_iff]
  rw [← hname, verbosityOf]
  cases value.asString?.bind Verbosity.ofName? <;> simp

theorem argumentsOf_eq_ok_iff {value : Value} {items : List Value} :
    argumentsOf value = .ok items ↔ some items = sequence? value := by
  unfold argumentsOf
  cases sequence? value <;> simp [eq_comm]

/-- A key has no fault just if it is the key of a setting. -/
theorem keyFault?_eq_none_iff {key : String} : keyFault? key = none ↔ key ∈ keys := by
  unfold keyFault?
  rw [← List.contains_iff_mem]
  split
  · simp_all
  · split <;> simp_all

theorem checkKeys_eq_ok_iff {names : List String} {done : Unit} :
    checkKeys names = .ok done ↔ ∀ key ∈ names, key ∈ keys := by
  have hnone : names.findSome? keyFault? = none ↔ ∀ key ∈ names, key ∈ keys := by
    simp only [List.findSome?_eq_none_iff, keyFault?_eq_none_iff]
  rw [← hnone, checkKeys]
  cases names.findSome? keyFault? <;> simp

/-- Settings are made of a table just if its keys are settings, the fields follow its values and are
allowed. -/
theorem ofTable_eq_ok_iff {fields : Table Value} {backend? : Option Backend}
    {settings : Settings} :
    ofTable fields backend? = .ok settings ↔
      (∀ key ∈ fields.keys, key ∈ keys) ∧ settings.Follows fields.get? ∧
        settings.backend? = backend? ∧ settings.IsAllowed := by
  -- One conjunct for each check, in the order in which they are made.
  simp only [ofTable, bind_eq_ok_iff, checkKeys_eq_ok_iff, textOf_eq_ok_iff, textOf?_eq_ok_iff,
    checkJobs_eq_ok_iff, checkVisible_eq_ok_iff, checkOutput_eq_ok_iff, verbosityOf_eq_ok_iff,
    argumentsOf_eq_ok_iff]
  constructor
  · rintro ⟨-, hkeys, compiler, hcompiler, installCommand, hinstall, output?, houtput, -, hjobs,
      -, hvisible, -, hwritten, verbosity, hverbosity, arguments, harguments, h⟩
    cases h
    exact ⟨hkeys, ⟨rfl, rfl, houtput, hcompiler.symm, harguments, hinstall.symm, hverbosity.symm⟩,
      rfl, ⟨hjobs, hvisible, hwritten⟩⟩
  · rintro ⟨hkeys, hfollows, rfl, hallowed⟩
    have hjobs : isBelowOne? ((fields.get? "jobs").getD (.int 1)) = some false :=
      hfollows.jobs ▸ hallowed.jobs
    refine ⟨(), hkeys, _, hfollows.compiler.symm, _, hfollows.installCommand.symm, _,
      hfollows.output, (), hjobs, (), hallowed.compiler, (), hallowed.output, _,
      hfollows.verbosity.symm, _, hfollows.arguments, ?_⟩
    obtain ⟨auditAll, jobs, output?, compiler, arguments, backend?, installCommand, verbosity⟩ :=
      settings
    cases hfollows.auditAll
    cases hfollows.jobs
    rfl

end Settings

end BuildAudit
