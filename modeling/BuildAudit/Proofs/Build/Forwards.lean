import BuildAudit.Proofs.Audit.Run
import BuildAudit.Proofs.Build.Info
import BuildAudit.Proofs.Build.Run
import BuildAudit.Proofs.Build.Settled
import BuildAudit.Proofs.Checks
import BuildAudit.Tools.Compiler

/-!
# Arguments are passed on whole

If the arguments in the settings are texts and the number of workers is one that is allowed, a build
does not fail for the kind of a value, and each call of the compiler passes the texts on, one
argument for each (`forwards_runBuild`). `Forwards` says so of any action, and a sequence has the
property if its parts do.
-/

namespace BuildAudit

/-- Whether a failure is about the kind of a value. -/
def Failure.isMistyped : Failure → Bool
  | .workersKind _ | .notAScope _ | .argumentKind => true
  | _ => false

/-- A call passes texts on: a compilation starts with them, and a call for an import graph has
nothing else. -/
def ToolCall.PassesOn (texts : List String) : ToolCall → Prop
  | .compile _ arguments => texts <+: arguments
  | .graph _ arguments => arguments = texts
  | .backend _ _ => True

/-- Wherever an action starts, it does not fail for the kind of a value, and the calls that it makes
pass the texts on. -/
def Forwards {σ α : Type} (texts : List String) (view : σ → Session)
    (action : ExceptT Failure (StateM σ) α) : Prop :=
  ∀ before,
    (∀ failure, (action before).1 = .error failure → failure.isMistyped = false) ∧
    ∃ made, (view (action before).2).calls = (view before).calls ++ made ∧
      ∀ call ∈ made, call.PassesOn texts

section Rules

variable {σ α β : Type} {texts : List String} {view : σ → Session}
  {action : ExceptT Failure (StateM σ) α}

/-- An action that makes no call has only its failures to answer for. -/
theorem forwards_of_calls_eq
    (hcalls : ∀ before, (view (action before).2).calls = (view before).calls)
    (hfailure : ∀ before failure, (action before).1 = .error failure →
      failure.isMistyped = false) : Forwards texts view action :=
  fun before => ⟨hfailure before, [], by rw [hcalls, List.append_nil], nofun⟩

theorem forwards_pure (result : α) : Forwards texts view (pure result) :=
  forwards_of_calls_eq (fun _ => rfl) fun _ _ h => by cases h

theorem forwards_get : Forwards texts view (get : ExceptT Failure (StateM σ) σ) :=
  forwards_of_calls_eq (fun _ => rfl) fun _ _ h => by cases h

theorem forwards_throw {failure : Failure} (h : failure.isMistyped = false) :
    Forwards texts view (throw failure : ExceptT Failure (StateM σ) α) :=
  forwards_of_calls_eq (fun _ => rfl) fun _ _ hfailure => by cases hfailure; exact h

/-- A sequence forwards texts if its first part does, and what follows its results. -/
theorem Forwards.bind {next : α → ExceptT Failure (StateM σ) β}
    (haction : Forwards texts view action)
    (hnext : ∀ before result after, action before = (.ok result, after) →
      Forwards texts view (next result)) : Forwards texts view (action >>= next) := by
  intro before
  obtain ⟨hfailure, made, hmade, hpasses⟩ := haction before
  -- After a failure nothing more is called; after a result the calls of what follows are added.
  rcases h : action before with ⟨failure | result, after⟩
  · rw [h] at hfailure hmade
    rw [bind_of_error h]
    refine ⟨fun other hother => ?_, made, hmade, hpasses⟩
    cases hother
    exact hfailure failure rfl
  · rw [h] at hmade
    rw [bind_of_ok h]
    obtain ⟨hfailure', more, hmore, hpasses'⟩ := hnext before result after h after
    refine ⟨hfailure', made ++ more, ?_, fun call hcall => ?_⟩
    · rw [hmore, hmade, List.append_assoc]
    · exact (List.mem_append.1 hcall).elim (hpasses call) (hpasses' call)

/-- The failures of an action whose outcome is taken as a result come up again in what follows. -/
theorem Forwards.bind_outcome {caught : ExceptT Failure (StateM σ) (Except Failure α)}
    {next : Except Failure α → ExceptT Failure (StateM σ) β}
    (hcaught : ∀ before, caught before = (.ok (action before).1, (action before).2))
    (haction : Forwards texts view action)
    (hnext : ∀ result, (∀ failure, result = .error failure → failure.isMistyped = false) →
      Forwards texts view (next result)) : Forwards texts view (caught >>= next) := by
  have hquiet : Forwards texts view caught := by
    intro before
    rw [hcaught]
    exact ⟨nofun, (haction before).2⟩
  refine hquiet.bind fun before result after h => hnext result fun failure hfailure => ?_
  rw [hcaught] at h
  cases h
  exact (haction before).1 failure hfailure

end Rules

/-- Tools that do not fail for the kind of a value. -/
def Tools.FailsOtherwise (tools : Tools) : Prop :=
  ∀ past call failure, tools.answer past call = .error failure → failure.isMistyped = false

namespace Toolchain

/-- Reading an output fails with a fault or for its size. -/
theorem isMistyped_of_graphReply {toolchain : Toolchain} {ended : ProcessOutcome}
    {failure : Failure} (h : (toolchain.graphReply ended).answer = .error failure) :
    failure.isMistyped = false := by
  unfold graphReply at h
  -- Every way to fail but one is a fault of the graph; what is read may also be beyond what can be
  -- read.
  split at h
  · split at h
    · split at h
      · cases h
        rfl
      · next text _ =>
        dsimp only at h
        rcases hread : (ImportGraph.ofOutput toolchain.ownership text).2 with fault | graph
        · rw [hread] at h
          cases h
          cases fault <;> rfl
        · rw [hread] at h
          cases h
    · cases h
      rfl
  · cases h
    rfl
  · cases h
    rfl
  · cases h
    rfl

/-- Tools that run as processes do not fail for the kind of a value. -/
theorem failsOtherwise (toolchain : Toolchain) (processes : Processes) :
    (toolchain.tools processes).FailsOtherwise := by
  intro past call failure h
  -- Only a call for an import graph has an output to be read.
  by_cases hcall : call.isGraph = true
  · cases call <;> cases hcall
    next globs arguments =>
    rw [Tools.answer] at h
    rcases hanswer : ((toolchain.tools processes).graph past globs arguments).answer with
      cause | graph
    · rw [hanswer] at h
      cases h
      exact isMistyped_of_graphReply hanswer
    · rw [hanswer] at h
      cases h
  · rcases noDirectory_or_fault_of_answer (by simpa using hcall) h with hnone | ⟨fault, rfl⟩
    · rw [answer_of_noDirectory hnone] at h
      cases h
      rfl
    · rfl

end Toolchain

section Actions

variable {texts : List String}

theorem forwards_log (level : Level) (text : CodeText) :
    Forwards texts id (Action.log level text) :=
  forwards_of_calls_eq (fun session => keepsCalls_log level text session) fun _ _ h => by cases h

theorem forwards_ofExcept {α : Type} {result : Except Failure α}
    (h : ∀ failure, result = .error failure → failure.isMistyped = false) :
    Forwards texts id (Action.ofExcept result) :=
  forwards_of_calls_eq (fun _ => rfl) fun _ failure hfailure => h failure hfailure

theorem forwards_ofConfig {α : Type} (result : Except ConfigFault α) :
    Forwards texts id (Action.ofConfig result) := by
  refine forwards_ofExcept fun failure h => ?_
  obtain ⟨fault, -, rfl⟩ := mapError_eq_error_iff.1 h
  rfl

/-- Actions in turn forward texts if each of them does. -/
theorem forwards_inTurn {α : Type} {actions : List (Action α)}
    (h : ∀ action ∈ actions, Forwards texts id action) :
    Forwards texts id (Action.inTurn actions) := by
  induction actions with
  | nil => exact forwards_pure []
  | cons action rest ih =>
    obtain ⟨hfirst, hrest⟩ := List.forall_mem_cons.1 h
    exact hfirst.bind fun _ _ _ _ => (ih hrest).bind fun _ _ _ _ => forwards_pure _

/-- All of some actions forward texts if each of them does. -/
theorem forwards_all {α : Type} {actions : List (Action α)}
    (h : ∀ action ∈ actions, Forwards texts id action) :
    Forwards texts id (Action.all actions) := by
  induction actions with
  | nil => exact forwards_pure []
  | cons action rest ih =>
    obtain ⟨hfirst, hrest⟩ := List.forall_mem_cons.1 h
    refine Forwards.bind_outcome (Action.outcome_apply action) hfirst fun first hfailure => ?_
    refine Forwards.bind_outcome (Action.outcome_apply _) (ih hrest) fun others hfailure' => ?_
    split
    · exact forwards_throw (hfailure _ rfl)
    · exact forwards_throw (hfailure' _ rfl)
    · exact forwards_pure _

end Actions

section Pipeline

variable {texts : List String} {tools : Tools} (htools : tools.FailsOtherwise)

theorem Forwards.ofAction {α : Type} {action : Action α} (h : Forwards texts id action) :
    Forwards texts Workshop.session (PipelineAction.ofAction action) :=
  fun workshop => h workshop.session

theorem forwards_enter (stage : Stage) :
    Forwards texts Workshop.session (PipelineAction.enter stage) := by
  refine forwards_of_calls_eq (fun workshop => ?_) fun _ _ h => by cases h
  rw [PipelineAction.enter_apply, Session.calls_extend]
  exact List.append_nil _

theorem forwards_finish (result : BuildResult) :
    Forwards texts Workshop.session (PipelineAction.finish result) := by
  refine forwards_of_calls_eq (fun workshop => ?_) fun _ _ h => by cases h
  rw [PipelineAction.finish_apply, Session.calls_extend]
  exact List.append_nil _

include htools

/-- A call that passes texts on forwards them. -/
theorem forwards_call {call : ToolCall} (hcall : call.PassesOn texts) :
    Forwards texts id (tools.run call) := by
  intro session
  rw [Tools.run_apply]
  refine ⟨fun failure h => htools _ _ _ h, [call], ?_, ?_⟩
  · rw [id, id, Session.calls_extend, Tools.filterMap_call?_callEvents]
  · simpa using hcall

theorem forwards_take {steps : List Step} (h : ∀ step ∈ steps, step.call.PassesOn texts) :
    Forwards texts Workshop.session (PipelineAction.take tools steps) := by
  induction steps with
  | nil => exact forwards_pure ()
  | cons step rest ih =>
    obtain ⟨hstep, hrest⟩ := List.forall_mem_cons.1 h
    have htaken : Forwards texts Workshop.session (PipelineAction.takeStep tools step) :=
      (forwards_enter _).bind fun _ _ _ _ => (forwards_log _ _).ofAction.bind fun _ _ _ _ =>
        (forwards_call htools hstep).ofAction
    exact htaken.bind fun _ _ _ _ => ih hrest

omit htools in
/-- The steps of a request start each compilation with the arguments. -/
theorem BuildRequest.passesOn_of_mem_steps {request : BuildRequest} {step : Step}
    (h : step ∈ request.steps texts) : step.call.PassesOn texts := by
  unfold BuildRequest.steps at h
  dsimp only at h
  split at h <;> simp only [List.mem_cons, List.not_mem_nil, or_false] at h
  · rw [h]
    exact List.prefix_append _ _
  · rcases h with rfl | rfl | rfl
    · exact List.prefix_append _ _
    · rw [List.append_assoc]
      exact List.prefix_append _ _
    · trivial

omit htools in
/-- Arguments that are texts are not refused for their kind, and are passed on as they are. -/
theorem checkArguments_texts {backend? : Option Backend} :
    (∀ failure, checkArguments backend? (texts.map .string) = .error failure →
      failure.isMistyped = false) ∧
    ∀ arguments, checkArguments backend? (texts.map .string) = .ok arguments →
      arguments = texts := by
  constructor
  · intro failure h
    rcases (vetting_iff.2 h).failure_cases with ⟨fault, rfl⟩ | rfl
    · rfl
    · exact absurd h checkArguments_texts_ne
  · intro arguments h
    have hinjective : Function.Injective (Value.string : String → Value) := fun _ _ =>
      Value.string.inj
    exact (hinjective.list_map (vetting_iff.2 h).eq_texts).symm

variable {request : BuildRequest} (hrequest : request.arguments = texts.map .string)

include hrequest

theorem forwards_proceed :
    Forwards texts Workshop.session (PipelineAction.proceed tools request) := by
  -- Past the check the arguments are the texts themselves, with which the steps are made.
  obtain ⟨hfailure, htexts⟩ := @checkArguments_texts texts request.backend?
  refine (forwards_enter _).bind fun _ _ _ _ => ?_
  rw [hrequest]
  refine (forwards_ofExcept hfailure).ofAction.bind fun before arguments after h => ?_
  rw [htexts arguments (congrArg Prod.fst h)]
  exact forwards_take htools fun step hstep => BuildRequest.passesOn_of_mem_steps hstep

/-- A pipeline forwards the arguments of its request. -/
theorem forwards_run : Forwards texts Workshop.session (PipelineAction.run tools request) := by
  refine forwards_get.bind fun _ workshop _ _ => ?_
  dsimp only
  split
  · refine Forwards.bind_outcome (PipelineAction.outcome_apply _)
      (forwards_proceed htools hrequest) fun ended hfailure => ?_
    split
    · exact (forwards_log _ _).ofAction.bind fun _ _ _ _ => forwards_finish _
    · exact (forwards_log _ _).ofAction.bind fun _ _ _ _ => forwards_finish _
    · exact forwards_throw (hfailure _ rfl)
  · exact forwards_throw rfl

theorem forwards_buildOnce : Forwards texts id (buildOnce tools request) :=
  fun session => forwards_run htools hrequest { pipeline := .fresh, session }

end Pipeline

section Preparation

variable {texts : List String}

theorem forwards_writeText (path : PosixPath) (text : String) :
    Forwards texts id (writeText path text) := by
  refine forwards_of_calls_eq (keepsCalls_writeText path text) fun session failure h => ?_
  unfold writeText at h
  split at h <;> cases h
  rfl

/-- Bringing the module with the build information up to date fails only for the files. -/
theorem forwards_writeBuildInfo (root : PosixPath) (packages : List String) :
    Forwards texts id (writeBuildInfo root packages) := by
  let path := root.join (.ofText buildInfoPath)
  have hpresent (files : FileTree) :
      Forwards texts id (Action.ofExcept ((files.hasPath path).mapError Failure.file)) := by
    refine forwards_ofExcept fun failure h => ?_
    obtain ⟨fault, -, rfl⟩ := mapError_eq_error_iff.1 h
    rfl
  have hholds (files : FileTree) (text : String) :
      Forwards texts id (Action.ofExcept (holdsText files path text)) := by
    refine forwards_ofExcept fun failure h => ?_
    unfold holdsText at h
    split at h
    · cases h
      rfl
    · split at h <;> cases h
      rfl
  -- What follows once it is known whether the file has to be written.
  have hfinish (upToDate : Bool) :
      Forwards texts id (if upToDate then pure path else do
        writeText path (renderBuildInfo packages version)
        Action.log .debug s!"Wrote {path.text}"
        pure path) := by
    split
    · exact forwards_pure path
    · exact (forwards_writeText _ _).bind fun _ _ _ _ =>
        (forwards_log _ _).bind fun _ _ _ _ => forwards_pure path
  rw [writeBuildInfo]
  refine forwards_get.bind fun _ session _ _ => (hpresent _).bind fun _ present _ _ => ?_
  cases present with
  | true => exact (hholds _ _).bind fun _ upToDate _ _ => hfinish upToDate
  | false => exact (forwards_pure false).bind fun _ upToDate _ _ => hfinish upToDate

variable (workspace : Workspace) {settings : Settings} (options : BuildOptions)

theorem forwards_selectGlobs :
    Forwards texts id (selectGlobs workspace options.selected? options.dependenciesOnly) := by
  rw [selectGlobs]
  split
  · exact (forwards_log _ _).bind fun _ _ _ _ => forwards_ofConfig _
  · exact forwards_ofConfig _

/-- Making a build ready checks the arguments once more, which are texts. -/
theorem forwards_prepare (hsettings : settings.compilerArguments = texts.map .string) :
    Forwards texts id (prepare workspace settings options) := by
  have haccepted : Forwards texts id (Action.ofExcept (flagsAccepted settings)) := by
    refine forwards_ofExcept fun failure h => ?_
    unfold flagsAccepted at h
    split at h <;> cases h
    next hcheck =>
    rw [hsettings] at hcheck
    exact checkArguments_texts.1 _ hcheck
  have hselect : Forwards texts id
      (selectGlobs workspace options.selected? options.dependenciesOnly) :=
    forwards_selectGlobs workspace options
  -- What follows once it is known that no package is unknown.
  have hinform : Forwards texts id (do
      if options.writeInfo then
        if ← Action.ofExcept (flagsAccepted settings) then
          let _ ← writeBuildInfo workspace.root workspace.packageNames
      selectGlobs workspace options.selected? options.dependenciesOnly) := by
    split
    · refine haccepted.bind fun _ accepted _ _ => ?_
      cases accepted with
      | true => exact (forwards_writeBuildInfo _ _).bind fun _ _ _ _ => hselect
      | false => exact hselect
    · exact hselect
  rw [prepare]
  split
  · exact (forwards_ofConfig _).bind fun _ _ _ _ => hinform
  · exact hinform

end Preparation

section Audit

variable {texts : List String} (workspace : Workspace) {settings : Settings} {tools : Tools}
  (htools : tools.FailsOtherwise) (hsettings : settings.compilerArguments = texts.map .string)

include htools hsettings

/-- The call for an import graph has just the texts as its arguments. -/
theorem forwards_graphOf (packages : List Package) (globs : NameSet) :
    Forwards texts id ((auditContext workspace settings tools packages).graphOf globs) := by
  have htexts : settings.compilerArguments.filterMap Value.asString? = texts := by
    rw [hsettings, List.filterMap_map]
    exact List.filterMap_some
  intro session
  dsimp only [auditContext]
  rw [htexts, Tools.runGraph_apply]
  refine ⟨fun failure h => ?_, [.graph globs texts], ?_, ?_⟩
  · refine htools session.calls (.graph globs texts) failure ?_
    dsimp only at h
    rw [Tools.answer, h]
    rfl
  · rw [id, id, Session.calls_extend, Tools.filterMap_call?_callEvents]
  · simp [ToolCall.PassesOn]

theorem forwards_auditPackage (packages : List Package) (package : Package) :
    Forwards texts id ((auditContext workspace settings tools packages).auditPackage package) := by
  have hdeclared (name : String) : Forwards texts id
      (Action.ofExcept ((auditContext workspace settings tools packages).declaredOf name)) := by
    refine forwards_ofExcept fun failure h => ?_
    obtain ⟨fault, -, rfl⟩ := mapError_eq_error_iff.1 h
    rfl
  have hlogged (records : List LogRecord) : Forwards texts id (Action.logAll records) := by
    refine forwards_of_calls_eq (fun session => ?_) fun _ _ h => by cases h
    rw [Action.logAll_apply, id, id, Session.calls_extend, Session.filterMap_call?_logged,
      List.append_nil]
  refine (forwards_ofExcept fun _ h => by cases h).bind fun _ globs _ _ => ?_
  -- A graph that cannot be decoded is only told about; any other failure comes up again.
  refine Forwards.bind_outcome (Action.outcome_apply _)
    (forwards_graphOf workspace htools hsettings packages globs) fun answer hfailure => ?_
  split
  · exact (hdeclared _).bind fun _ _ _ _ => (hlogged _).bind fun _ _ _ _ => forwards_pure _
  · exact (forwards_log _ _).bind fun _ _ _ _ => forwards_pure _
  · exact forwards_throw (hfailure _ rfl)

/-- An audit forwards the texts, whether the packages are audited in turn or side by side. -/
theorem forwards_audit (hjobs : Settings.isBelowOne? settings.jobs = some false)
    {packages list : List Package} {scope : Scope}
    (hscope : (auditContext workspace settings tools packages).packagesIn scope = .ok list) :
    Forwards texts id
      ((auditContext workspace settings tools packages).audit settings.jobs scope) := by
  let context := auditContext workspace settings tools packages
  have hworkers : Forwards texts id
      (Action.ofExcept (AuditContext.checkWorkers settings.jobs)) := by
    refine forwards_ofExcept fun failure h => ?_
    rw [AuditContext.checkWorkers, hjobs] at h
    cases h
  have hpackages : Forwards texts id (Action.ofExcept (context.packagesIn scope)) := by
    refine forwards_ofExcept fun failure h => ?_
    rw [hscope] at h
    cases h
  have haudited (list : List Package) :
      Forwards texts id (context.auditPackages settings.jobs list) := by
    -- Each package forwards the texts, and both ways to audit the packages are made of these.
    have heach : ∀ action ∈ list.map context.auditPackage, Forwards texts id action := by
      intro action haction
      obtain ⟨package, -, rfl⟩ := List.mem_map.1 haction
      exact forwards_auditPackage workspace htools hsettings packages package
    rw [AuditContext.auditPackages]
    split
    · exact forwards_inTurn heach
    · exact forwards_all heach
  refine hworkers.bind fun _ _ _ _ => hpackages.bind fun _ list _ _ => ?_
  refine (forwards_log _ _).bind fun _ _ _ _ => (haudited list).bind fun _ found _ _ => ?_
  split
  · exact (forwards_log _ _).bind fun _ _ _ _ => forwards_pure _
  · exact forwards_pure _

theorem forwards_auditAfter (hjobs : Settings.isBelowOne? settings.jobs = some false)
    (selected? : Option String) (result : BuildResult) :
    Forwards texts id (auditAfter workspace settings tools selected? result) := by
  refine (forwards_ofConfig _).bind fun _ plan? _ hplan => ?_
  have hplan := mapError_eq_ok_iff.1 (congrArg Prod.fst hplan)
  split
  · exact forwards_pure _
  · next scope packages =>
    obtain ⟨-, hscope⟩ := auditPlan_eq_some workspace settings tools hplan
    exact (forwards_audit workspace htools hsettings hjobs hscope).bind
      fun _ _ _ _ => forwards_pure _

/-- A build with texts for arguments and an allowed number of workers does not fail for the kind of
a value, and its calls of the compiler pass the texts on. -/
theorem forwards_runBuild (hjobs : Settings.isBelowOne? settings.jobs = some false)
    (options : BuildOptions) : Forwards texts id (runBuild workspace settings tools options) := by
  refine (forwards_prepare workspace options hsettings).bind fun _ globs _ _ => ?_
  refine (forwards_buildOnce htools hsettings).bind fun _ result _ _ => ?_
  split
  · exact forwards_auditAfter workspace htools hsettings hjobs _ _
  · exact forwards_pure _

end Audit

end BuildAudit
