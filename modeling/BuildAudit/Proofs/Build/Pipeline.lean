import BuildAudit.Build.Pipeline
import BuildAudit.Proofs.Build.Flags
import BuildAudit.Proofs.Session

/-!
# The life of a pipeline

A request has a plan: the calls that it asks for, each with the stage in which it is made. `Makes`
says without a computation which calls of a plan are made, namely all of them up to the first that
ends with a fault.

A pipeline that has not run follows the plan of its first request if no argument is reserved, and
makes no call if one is. `FirstRun` lists what it comes to, and `FirstRun.of_run` says that it comes
to nothing else. The pipeline is finished then, and every further run is refused without a trace
(`run_finished`). `runs_fresh` puts this together for any sequence of runs.
-/

namespace BuildAudit

/-- The calls that a request asks for, each with the stage in which it is made. -/
def BuildRequest.plan (request : BuildRequest) (arguments : List String) :
    List (Stage × ToolCall) :=
  let output : List String :=
    match request.output? with
    | none => []
    | some output => ["--output", output]
  (.compiling, .compile request.globs (arguments ++ output)) ::
    match request.backend? with
    | none => []
    | some backend => [
        (.compilingIntermediate,
          .compile request.globs (arguments ++ ["--codegen", "corefn"] ++ output)),
        (.invokingBackend, .backend backend.command (backend.arguments ++ output))]

namespace Tools

variable (tools : Tools)

/-- Every call of the compiler and of the backend returns or ends with a fault of the build. -/
structure EndsWithBuildFaults : Prop where
  /-- A compilation that does not return ends with a fault of the build. -/
  compile : ∀ past globs arguments failure,
    (tools.compile past globs arguments).answer = .error failure →
      ∃ fault, failure = .fault (.build fault)
  /-- A run of the backend that does not return ends with a fault of the build. -/
  backend : ∀ past command arguments failure,
    (tools.backend past command arguments).answer = .error failure →
      ∃ fault, failure = .fault (.build fault)

/-- A call ends only with faults of the build, if it does not return. -/
def EndsOnlyWithFaults (call : ToolCall) : Prop :=
  ∀ past failure, tools.answer past call = .error failure →
    ∃ fault, failure = .fault (.build fault)

/-- Calls that are made in turn after others all return. -/
def AllReturn (past calls : List ToolCall) : Prop :=
  ∀ before call after, calls = before ++ call :: after →
    tools.answer (past ++ before) call = .ok ()

/-- Of the calls of a plan, made in turn after the calls `past`, those that are made: all of them if
every call returns, and otherwise those up to the first one that ends with a fault. -/
inductive Makes (past : List ToolCall) (plan : List ToolCall) :
    List ToolCall → Option BuildFault → Prop
  | all : tools.AllReturn past plan → Makes past plan plan none
  | cut {before after : List ToolCall} {call : ToolCall} {fault : BuildFault} :
      plan = before ++ call :: after →
      tools.AllReturn past before →
      tools.answer (past ++ before) call = .error (.fault (.build fault)) →
      Makes past plan (before ++ [call]) (some fault)

/-- Nothing has to be made for an empty plan. -/
theorem allReturn_nil (past : List ToolCall) : tools.AllReturn past [] := by
  rintro before call after h
  simp at h

/-- Calls all return if the first does and the others do after it. -/
theorem allReturn_cons {past calls : List ToolCall} {call : ToolCall}
    (hfirst : tools.answer past call = .ok ()) (hrest : tools.AllReturn (past ++ [call]) calls) :
    tools.AllReturn past (call :: calls) := by
  intro before other after h
  cases before with
  | nil =>
    rw [List.nil_append, List.cons.injEq] at h
    rw [List.append_nil, ← h.1, hfirst]
  | cons first before =>
    rw [List.cons_append, List.cons.injEq] at h
    obtain ⟨rfl, h⟩ := h
    have := hrest before other after h
    rwa [List.append_assoc, List.singleton_append] at this

/-- A plan is followed by a first call that returns and by following the others after it. -/
theorem Makes.cons {past plan made : List ToolCall} {call : ToolCall} {fault? : Option BuildFault}
    (hfirst : tools.answer past call = .ok ())
    (hrest : tools.Makes (past ++ [call]) plan made fault?) :
    tools.Makes past (call :: plan) (call :: made) fault? := by
  cases hrest with
  | all hall => exact .all (tools.allReturn_cons hfirst hall)
  | @cut before after last fault hplan hbefore hfault =>
    have hplan' : call :: plan = (call :: before) ++ last :: after := by
      rw [hplan, List.cons_append]
    rw [List.append_assoc] at hfault
    exact .cut hplan' (tools.allReturn_cons hfirst hbefore) hfault

/-- Only calls of a plan are made. -/
theorem Makes.subset {past plan made : List ToolCall} {fault? : Option BuildFault}
    (h : tools.Makes past plan made fault?) : made ⊆ plan := by
  cases h with
  | all => exact fun _ hcall => hcall
  | @cut before after call fault hplan =>
    have hsplit : plan = (before ++ [call]) ++ after := by
      rw [hplan, List.append_assoc, List.singleton_append]
    rw [hsplit]
    exact List.subset_append_left (before ++ [call]) after

/-- At least one call is made unless there is none to make. -/
theorem Makes.ne_nil {past plan made : List ToolCall} {fault? : Option BuildFault}
    (h : tools.Makes past plan made fault?) (hplan : plan ≠ []) : made ≠ [] := by
  cases h with
  | all => exact hplan
  | cut => exact List.append_ne_nil_of_right_ne_nil _ (List.cons_ne_nil _ _)

/-- Making a call adds its events and gives the tool's answer to it, its result apart. -/
theorem run_apply (call : ToolCall) (session : Session) :
    tools.run call session =
      (tools.answer session.calls call, session.extend (tools.callEvents session.calls call)) := by
  cases call with
  | compile globs arguments =>
    rw [run, runCompile, perform_apply]
    rfl
  | backend command arguments =>
    rw [run, runBackend, perform_apply]
    rfl
  | graph globs arguments =>
    rw [run]
    -- A call for an import graph also hands over the graph, which the general answer leaves out.
    rcases h : (tools.graph session.calls globs arguments).answer with failure | graph
    · rw [bind_of_error ((tools.runGraph_apply globs arguments session).trans (by rw [h]))]
      rw [answer, h]
      rfl
    · rw [bind_of_ok ((tools.runGraph_apply globs arguments session).trans (by rw [h]))]
      rw [answer, h]
      rfl

end Tools

namespace PipelineAction

variable {α : Type}

theorem ofAction_apply (action : Action α) (workshop : Workshop) :
    ofAction action workshop =
      ((action workshop.session).1, { workshop with session := (action workshop.session).2 }) := rfl

theorem ofAction_log_apply (level : Level) (text : CodeText) (workshop : Workshop) :
    ofAction (Action.log level text) workshop =
      (.ok (), { workshop with session := workshop.session.extend [.logged { level, text }] }) :=
  rfl

theorem outcome_apply (action : PipelineAction α) (workshop : Workshop) :
    outcome action workshop = (.ok (action workshop).1, (action workshop).2) := rfl

/-- Entering a stage is noted in the history and logged. -/
theorem enter_apply (stage : Stage) (workshop : Workshop) :
    enter stage workshop = (.ok (), {
      pipeline := workshop.pipeline.moved stage
      session := workshop.session.extend [.logged {
        level := .debug
        text := s!"Pipeline {workshop.pipeline.stage.name} -> {stage.name}" }] }) := rfl

/-- A run ends in the stage of its result, which the pipeline keeps. -/
theorem finish_apply (result : BuildResult) (workshop : Workshop) :
    finish result workshop = (.ok result, {
      pipeline := { workshop.pipeline.moved result.stage with result? := some result }
      session := workshop.session.extend [.logged {
        level := .debug
        text := s!"Pipeline {workshop.pipeline.stage.name} -> {result.stage.name}" }] }) := rfl

/-- How a sequence of calls ends. -/
def ending : Option BuildFault → Except Failure Unit
  | none => .ok ()
  | some fault => .error (.fault (.build fault))

/-- A step leads into its stage and makes its call, and ends as the call does. -/
theorem takeStep_apply (tools : Tools) (step : Step) (workshop : Workshop) :
    ∃ session, workshop.session.CallsOnly [step.call] session ∧
      takeStep tools step workshop =
        (tools.answer workshop.session.calls step.call,
          { pipeline := workshop.pipeline.moved step.stage, session }) := by
  have hquiet := Session.CallsOnly.logged workshop.session
    [{ level := .debug, text := s!"Pipeline {workshop.pipeline.stage.name} -> {step.stage.name}" },
      { level := .info, text := step.notice }]
  -- The records come before the call, so the tool is asked after the same calls as before them.
  have hcalls := hquiet.calls_eq_of_quiet
  refine ⟨_, hquiet.trans (tools.callsOnly_callEvents _ workshop.session.calls step.call), ?_⟩
  rw [takeStep, bind_of_ok (enter_apply step.stage workshop), bind_of_ok (ofAction_log_apply ..),
    ofAction_apply, Tools.run_apply]
  simp only [Session.extend_extend, List.cons_append, List.nil_append]
  simp only [List.map_cons, List.map_nil] at hcalls ⊢
  rw [hcalls]
  rfl

/-- Steps whose calls end only with faults of the build are taken up to the first one whose call
does not return. The pipeline goes through the stages of the calls that are made. -/
theorem take_apply (tools : Tools) (steps : List Step)
    (hends : ∀ step ∈ steps, tools.EndsOnlyWithFaults step.call) (workshop : Workshop) :
    ∃ made fault? later, tools.Makes workshop.session.calls (steps.map (·.call)) made fault? ∧
      take tools steps workshop = (ending fault?, later) ∧
      workshop.session.CallsOnly made later.session ∧
      later.pipeline.history =
        workshop.pipeline.history ++ (steps.take made.length).map (·.stage) := by
  -- The calls of the session are those before the next step, so `Makes` is built up from its front.
  induction steps generalizing workshop with
  | nil =>
    exact ⟨[], none, workshop, .all (tools.allReturn_nil _), rfl, .refl _,
      (List.append_nil _).symm⟩
  | cons step rest ih =>
    obtain ⟨session, hcalls, hstep⟩ := takeStep_apply tools step workshop
    rw [take]
    rcases hanswer : tools.answer workshop.session.calls step.call with failure | _
    · obtain ⟨fault, rfl⟩ := hends step (.head _) _ _ hanswer
      rw [hanswer] at hstep
      refine ⟨[step.call], some fault, _, ?_, bind_of_error hstep, hcalls, rfl⟩
      have hnone : tools.AllReturn workshop.session.calls [] := tools.allReturn_nil _
      exact .cut rfl hnone (by rwa [List.append_nil])
    · rw [hanswer] at hstep
      obtain ⟨made, fault?, later, hmakes, htake, hmore, hhistory⟩ :=
        ih (fun other hother => hends other (.tail _ hother))
          { pipeline := workshop.pipeline.moved step.stage, session }
      rw [hcalls.calls_eq] at hmakes
      refine ⟨step.call :: made, fault?, later, .cons tools hanswer hmakes, ?_, hcalls.trans hmore,
        ?_⟩
      · rw [bind_of_ok hstep, htake]
      · rw [hhistory, Pipeline.moved, List.append_assoc]
        rfl

end PipelineAction

/-- The steps of a request are what it plans. -/
theorem BuildRequest.plan_eq_map_steps (request : BuildRequest) (arguments : List String) :
    request.plan arguments =
      (request.steps arguments).map fun step => (step.stage, step.call) := by
  unfold plan steps
  rcases request.output? with _ | output <;> rcases request.backend? with _ | backend <;> rfl

/-- The steps of a request end only with faults of the build if the tools do. -/
theorem BuildRequest.endsOnlyWithFaults_of_mem_steps {tools : Tools}
    (hends : tools.EndsWithBuildFaults) {request : BuildRequest} {arguments : List String}
    {step : Step} (hstep : step ∈ request.steps arguments) :
    tools.EndsOnlyWithFaults step.call := by
  have hcompile (globs flags : List String) : tools.EndsOnlyWithFaults (.compile globs flags) :=
    fun past => hends.compile past globs flags
  rw [steps] at hstep
  split at hstep
  · rw [List.mem_singleton] at hstep
    rw [hstep]
    exact hcompile _ _
  · next backend _ =>
    simp only [List.mem_cons, List.not_mem_nil, or_false] at hstep
    rcases hstep with rfl | rfl | rfl
    · exact hcompile _ _
    · exact hcompile _ _
    · exact fun past => hends.backend past backend.command _

/-- What the first run of a pipeline comes to: its outcome, the calls that are made after the calls
`past`, and the pipeline afterwards. -/
inductive FirstRun (tools : Tools) (past : List ToolCall) (request : BuildRequest) :
    Except Failure BuildResult → List ToolCall → Pipeline → Prop
  /-- A reserved argument is refused without a call. -/
  | refused {fault : BuildFault} :
      Vetting request.backend? request.arguments (.error (.fault (.build fault))) →
      FirstRun tools past request (.ok { stage := .failed, fault? := some fault }) [] {
        stage := .failed
        history := [.idle, .validatingFlags, .failed]
        result? := some { stage := .failed, fault? := some fault } }
  /-- The plan is followed, and the pipeline goes through the stages of the calls that are made. -/
  | followed {arguments : List String} {made : List ToolCall} {fault? : Option BuildFault}
      {stage : Stage} :
      Vetting request.backend? request.arguments (.ok arguments) →
      tools.Makes past ((request.plan arguments).map (·.2)) made fault? →
      stage = (if fault? = none then .succeeded else .failed) →
      FirstRun tools past request (.ok { stage, fault? }) made {
        stage
        history := [.idle, .validatingFlags] ++
          ((request.plan arguments).take made.length).map (·.1) ++ [stage]
        result? := some { stage, fault? } }
  /-- Arguments that cannot be checked end the run without a result. -/
  | notText :
      Vetting request.backend? request.arguments (.error .argumentKind) →
      FirstRun tools past request (.error .argumentKind) [] {
        stage := .validatingFlags
        history := [.idle, .validatingFlags]
        result? := none }

namespace PipelineAction

/-- A run from a stage other than the first is refused without a trace. -/
theorem run_finished (tools : Tools) (request : BuildRequest) {workshop : Workshop}
    (h : workshop.pipeline.stage ≠ .idle) :
    run tools request workshop =
      (.error (.fault (.build (.finished workshop.pipeline.stage.name))), workshop) := by
  rw [run, bind_of_ok (get_apply workshop), if_neg h]
  rfl

/-- A check of the arguments that fails ends the part of a run that takes steps. -/
theorem proceed_of_error (tools : Tools) {request : BuildRequest} {failure : Failure}
    (h : checkArguments request.backend? request.arguments = .error failure)
    (workshop : Workshop) :
    proceed tools request workshop = (.error failure, (enter .validatingFlags workshop).2) := by
  rw [proceed, bind_of_ok (enter_apply _ workshop), enter_apply]
  refine bind_of_error ?_
  rw [ofAction_apply, h, Action.ofExcept_apply]

/-- A check of the arguments that succeeds is followed by the steps. -/
theorem proceed_of_ok (tools : Tools) {request : BuildRequest} {arguments : List String}
    (h : checkArguments request.backend? request.arguments = .ok arguments)
    (workshop : Workshop) :
    proceed tools request workshop =
      take tools (request.steps arguments) (enter .validatingFlags workshop).2 := by
  rw [proceed, bind_of_ok (enter_apply _ workshop), enter_apply]
  refine bind_of_ok ?_
  rw [ofAction_apply, h, Action.ofExcept_apply]

/-- A run whose steps come to an end, or end with a fault of the build, has a result, which the
pipeline keeps. -/
theorem run_of_ending (tools : Tools) {request : BuildRequest} {fault? : Option BuildFault}
    {workshop later : Workshop} (hidle : workshop.pipeline.stage = .idle)
    (h : proceed tools request workshop = (ending fault?, later)) {stage : Stage}
    (hstage : stage = if fault? = none then .succeeded else .failed) :
    ∃ session, later.session.CallsOnly [] session ∧
      run tools request workshop = (.ok { stage, fault? }, {
        pipeline := { later.pipeline.moved stage with result? := some { stage, fault? } }
        session }) := by
  -- What is logged at the end, with one record for the way to the last stage.
  have hlogged (level : Level) (text : CodeText) (stage : Stage) :=
    (Session.CallsOnly.logged later.session [{ level, text }]).trans
      (.logged _ [{
        level := .debug
        text := s!"Pipeline {later.pipeline.stage.name} -> {stage.name}" }])
  rw [run, bind_of_ok (get_apply workshop), if_pos hidle, bind_of_ok (outcome_apply _ workshop), h]
  cases fault? with
  | none =>
    rw [if_pos rfl] at hstage
    subst hstage
    refine ⟨_, hlogged .info "Build succeeded." .succeeded, ?_⟩
    exact (bind_of_ok (ofAction_log_apply ..)).trans (finish_apply ..)
  | some fault =>
    rw [if_neg (Option.some_ne_none fault)] at hstage
    subst hstage
    refine ⟨_, hlogged .error (Fault.build fault).message .failed, ?_⟩
    exact (bind_of_ok (ofAction_log_apply ..)).trans (finish_apply ..)

/-- A step only makes its call. -/
theorem onlyCalls_takeStep (tools : Tools) (step : Step) :
    OnlyCalls Workshop.session (takeStep tools step) := by
  intro workshop
  obtain ⟨session, hcalls, hstep⟩ := takeStep_apply tools step workshop
  exact ⟨[step.call], by rwa [hstep]⟩

/-- Steps only make their calls, however those end. -/
theorem onlyCalls_take (tools : Tools) (steps : List Step) :
    OnlyCalls Workshop.session (take tools steps) := by
  induction steps with
  | nil => exact onlyCalls_of_unchanged fun _ => rfl
  | cons step rest ih => exact (onlyCalls_takeStep tools step).bind fun _ => ih

/-- A record that is logged is no call. -/
theorem onlyCalls_log (level : Level) (text : CodeText) :
    OnlyCalls Workshop.session (ofAction (Action.log level text)) :=
  fun workshop => ⟨[], .logged workshop.session [{ level, text }]⟩

/-- The end of a run is no call. -/
theorem onlyCalls_finish (result : BuildResult) :
    OnlyCalls Workshop.session (finish result) :=
  fun workshop => ⟨[], .logged workshop.session [_]⟩

/-- A run only makes calls, however those end. -/
theorem onlyCalls_run (tools : Tools) (request : BuildRequest) :
    OnlyCalls Workshop.session (run tools request) := by
  have hproceed : OnlyCalls Workshop.session (proceed tools request) := by
    refine OnlyCalls.bind (fun workshop => ⟨[], .logged workshop.session [_]⟩) fun _ => ?_
    exact OnlyCalls.bind (onlyCalls_of_unchanged fun _ => rfl) fun _ => onlyCalls_take tools _
  refine OnlyCalls.bind (onlyCalls_of_unchanged fun _ => rfl) fun workshop => ?_
  dsimp only
  split
  · refine OnlyCalls.bind (fun started => hproceed started) fun ended => ?_
    split
    · exact (onlyCalls_log _ _).bind fun _ => onlyCalls_finish _
    · exact (onlyCalls_log _ _).bind fun _ => onlyCalls_finish _
    · exact onlyCalls_of_unchanged fun _ => rfl
  · exact onlyCalls_of_unchanged fun _ => rfl

/-- A failure that is no fault of the build ends a run without a result. -/
theorem run_of_halted (tools : Tools) {request : BuildRequest} {failure : Failure}
    (hfailure : ∀ fault, failure ≠ .fault (.build fault)) {workshop later : Workshop}
    (hidle : workshop.pipeline.stage = .idle)
    (h : proceed tools request workshop = (.error failure, later)) :
    run tools request workshop = (.error failure, later) := by
  rw [run, bind_of_ok (get_apply workshop), if_pos hidle, bind_of_ok (outcome_apply _ workshop), h]
  cases failure with
  | fault cause =>
    cases cause with
    | build fault => exact absurd rfl (hfailure fault)
    | _ => rfl
  | _ => rfl

end PipelineAction

/-- Whether a call asks for an import graph. -/
def ToolCall.isGraph : ToolCall → Bool
  | .graph .. => true
  | _ => false

/-- No import graph is asked for by a plan. -/
theorem BuildRequest.isGraph_of_mem_plan {request : BuildRequest} {arguments : List String}
    {call : ToolCall} (h : call ∈ (request.plan arguments).map (·.2)) : call.isGraph = false := by
  rw [plan, List.map_cons, List.mem_cons] at h
  rcases h with rfl | h
  · rfl
  · split at h
    · exact absurd h List.not_mem_nil
    · simp only [List.map_cons, List.map_nil, List.mem_cons, List.not_mem_nil, or_false] at h
      rcases h with rfl | rfl <;> rfl

namespace FirstRun

variable {tools : Tools} {past made : List ToolCall} {request : BuildRequest}
  {outcome : Except Failure BuildResult} {pipeline : Pipeline}

/-- No pipeline is idle after a run. -/
theorem stage_ne_idle (h : FirstRun tools past request outcome made pipeline) :
    pipeline.stage ≠ .idle := by
  cases h with
  | refused => exact Stage.noConfusion
  | followed _ _ hstage =>
    rw [hstage]
    split <;> exact Stage.noConfusion
  | notText => exact Stage.noConfusion

/-- A pipeline asks for no import graph. -/
theorem isGraph_of_mem (h : FirstRun tools past request outcome made pipeline) {call : ToolCall}
    (hcall : call ∈ made) : call.isGraph = false := by
  cases h with
  | refused | notText => exact absurd hcall List.not_mem_nil
  | followed _ hmakes => exact BuildRequest.isGraph_of_mem_plan (hmakes.subset tools hcall)

/-- A pipeline compiles just if the arguments pass their check. -/
theorem compiling_mem_iff (h : FirstRun tools past request outcome made pipeline) :
    .compiling ∈ pipeline.history ↔
      ∃ arguments, checkArguments request.backend? request.arguments = .ok arguments := by
  cases h with
  | refused hvetting =>
    rw [vetting_iff.1 hvetting]
    exact ⟨fun h => by simp at h, fun ⟨_, h⟩ => by cases h⟩
  | notText hvetting =>
    rw [vetting_iff.1 hvetting]
    exact ⟨fun h => by simp at h, fun ⟨_, h⟩ => by cases h⟩
  | @followed arguments made _ _ hvetting hmakes =>
    rw [vetting_iff.1 hvetting]
    refine ⟨fun _ => ⟨arguments, rfl⟩, fun _ => ?_⟩
    -- The first call of every plan is a compilation, and at least one call is made.
    have hplan : request.plan arguments ≠ [] := by
      rw [BuildRequest.plan]
      exact List.cons_ne_nil _ _
    have hmade := hmakes.ne_nil tools fun h => hplan (List.map_eq_nil_iff.1 h)
    obtain ⟨call, rest, rfl⟩ := List.exists_cons_of_ne_nil hmade
    simp [BuildRequest.plan]

/-- A pipeline that has not run is left without a call if the arguments do not pass their check. -/
theorem of_error {failure : Failure}
    (hcheck : checkArguments request.backend? request.arguments = .error failure)
    (session : Session) :
    ∃ outcome pipeline later, FirstRun tools session.calls request outcome [] pipeline ∧
      session.CallsOnly [] later ∧
      PipelineAction.run tools request { pipeline := .fresh, session } =
        (outcome, { pipeline, session := later }) := by
  let started : Workshop := { pipeline := .fresh, session }
  let entered : Workshop := (PipelineAction.enter .validatingFlags started).2
  have hquiet : session.CallsOnly [] entered.session := .logged session [_]
  have hvetting := vetting_iff.2 hcheck
  have hproceed := PipelineAction.proceed_of_error tools hcheck started
  -- A reserved argument fails the pipeline; a value that is no text leaves it where it is.
  rcases hvetting.failure_cases with ⟨fault, rfl⟩ | rfl
  · have hended : PipelineAction.proceed tools request started =
        (PipelineAction.ending (some fault), entered) := hproceed
    obtain ⟨later, hlater, hrun⟩ := PipelineAction.run_of_ending tools rfl hended rfl
    exact ⟨_, _, later, .refused hvetting, hquiet.trans hlater, hrun⟩
  · have hkind (fault : BuildFault) : Failure.argumentKind ≠ .fault (.build fault) :=
      Failure.noConfusion
    exact ⟨_, _, _, .notText hvetting, hquiet,
      PipelineAction.run_of_halted tools hkind rfl hproceed⟩

/-- A pipeline that has not run follows the plan of its request if the arguments pass their
check. -/
theorem of_ok (hends : tools.EndsWithBuildFaults) {arguments : List String}
    (hcheck : checkArguments request.backend? request.arguments = .ok arguments)
    (session : Session) :
    ∃ outcome made pipeline later, FirstRun tools session.calls request outcome made pipeline ∧
      session.CallsOnly made later ∧
      PipelineAction.run tools request { pipeline := .fresh, session } =
        (outcome, { pipeline, session := later }) := by
  let started : Workshop := { pipeline := .fresh, session }
  let entered : Workshop := (PipelineAction.enter .validatingFlags started).2
  have hquiet : session.CallsOnly [] entered.session := .logged session [_]
  obtain ⟨made, fault?, later, hmakes, htake, hcalls, hhistory⟩ :=
    PipelineAction.take_apply tools (request.steps arguments)
      (fun _ => BuildRequest.endsOnlyWithFaults_of_mem_steps hends) entered
  have hproceed := (PipelineAction.proceed_of_ok tools hcheck started).trans htake
  obtain ⟨last, hlast, hrun⟩ := PipelineAction.run_of_ending tools rfl hproceed rfl
  rw [hquiet.calls_eq_of_quiet] at hmakes
  -- The plan has the calls and the stages of the steps that are taken.
  have hplan := request.plan_eq_map_steps arguments
  have hmade : (request.plan arguments).map (·.2) = (request.steps arguments).map (·.call) := by
    rw [hplan, List.map_map]
    rfl
  have hstages : ((request.plan arguments).take made.length).map (·.1) =
      ((request.steps arguments).take made.length).map (·.stage) := by
    rw [hplan, ← List.map_take, List.map_map]
    rfl
  refine ⟨_, made, _, last, ?_, hquiet.between_quiet hcalls hlast, hrun⟩
  have hfollowed := FirstRun.followed (vetting_iff.2 hcheck) (hmade ▸ hmakes) rfl
  rw [hstages] at hfollowed
  rw [Pipeline.moved, hhistory]
  exact hfollowed

/-- A pipeline that has not run makes its first run, if the tools end only with faults of the
build. -/
theorem of_run (hends : tools.EndsWithBuildFaults) (request : BuildRequest) (session : Session) :
    ∃ outcome made pipeline later, FirstRun tools session.calls request outcome made pipeline ∧
      session.CallsOnly made later ∧
      PipelineAction.run tools request { pipeline := .fresh, session } =
        (outcome, { pipeline, session := later }) := by
  rcases hcheck : checkArguments request.backend? request.arguments with failure | arguments
  · obtain ⟨outcome, pipeline, later, hfirst, hcalls, hrun⟩ := of_error hcheck session
    exact ⟨outcome, [], pipeline, later, hfirst, hcalls, hrun⟩
  · exact of_ok hends hcheck session

end FirstRun

namespace PipelineAction

/-- Runs a pipeline for requests in turn and gives the outcome of each run. -/
def runs (tools : Tools) : List BuildRequest → PipelineAction (List (Except Failure BuildResult))
  | [] => pure []
  | request :: rest => do
    let first ← outcome (run tools request)
    let others ← runs tools rest
    pure (first :: others)

/-- After its first run a pipeline refuses every further one and stays as it is, as does the
session. -/
theorem runs_finished (tools : Tools) (requests : List BuildRequest) {workshop : Workshop}
    (h : workshop.pipeline.stage ≠ .idle) :
    runs tools requests workshop =
      (.ok (requests.map fun _ =>
        .error (.fault (.build (.finished workshop.pipeline.stage.name)))), workshop) := by
  induction requests with
  | nil => rfl
  | cons request rest ih =>
    rw [runs, bind_of_ok (outcome_apply _ workshop), run_finished tools request h, bind_of_ok ih]
    rfl

/-- The life of a pipeline. The first run follows the plan of its request up to the first call that
ends with a fault, or refuses a reserved argument. Every further run is refused without a trace. -/
theorem runs_fresh (tools : Tools) (hends : tools.EndsWithBuildFaults) (session : Session)
    (first : BuildRequest) :
    ∃ outcome made pipeline later, FirstRun tools session.calls first outcome made pipeline ∧
      session.CallsOnly made later ∧
      ∀ requests, runs tools (first :: requests) { pipeline := .fresh, session } =
        (.ok (outcome :: requests.map fun _ =>
          .error (.fault (.build (.finished pipeline.stage.name)))), { pipeline, session := later })
    := by
  obtain ⟨outcome, made, pipeline, later, hfirst, hcalls, hrun⟩ :=
    FirstRun.of_run hends first session
  refine ⟨outcome, made, pipeline, later, hfirst, hcalls, fun requests => ?_⟩
  -- After the first run the pipeline is not idle any more, however it ended.
  have hfinished : runs tools requests { pipeline, session := later } = _ :=
    runs_finished tools requests hfirst.stage_ne_idle
  rw [runs, bind_of_ok (outcome_apply _ _), hrun, bind_of_ok hfinished]
  rfl

/-- Tools whose compiler works only once, and only if nothing was called before. -/
def compilingOnce : Tools where
  compile past _ arguments := {
    records := []
    answer :=
      if past = [] then .ok ()
      else .error (.fault (.build (.compile "compilation failed" (some 1) arguments))) }
  graph _ _ _ := { records := [], answer := .error .notText }
  backend _ _ _ := { records := [], answer := .ok () }

/-- A request to build with a backend. -/
def backendRequest : BuildRequest where
  globs := ["src/**/*.purs"]
  arguments := [.string "--json-errors"]
  output? := some "out"
  backend? := some ⟨"purs-backend-es", ["build"], rfl⟩

/-- With a compiler that works only once, a build with a backend makes two of its three calls. -/
theorem runs_fresh_compilingOnce :
    compilingOnce.EndsWithBuildFaults ∧
      ∃ outcome made pipeline later,
        FirstRun compilingOnce Session.bare.calls backendRequest outcome made pipeline ∧
        Session.bare.CallsOnly made later ∧
        ∀ requests,
          runs compilingOnce (backendRequest :: requests)
              { pipeline := .fresh, session := .bare } =
            (.ok (outcome :: requests.map fun _ =>
              .error (.fault (.build (.finished pipeline.stage.name)))),
              { pipeline, session := later }) := by
  have hends : compilingOnce.EndsWithBuildFaults := by
    constructor
    · intro past globs arguments failure h
      by_cases hpast : past = []
      · rw [hpast] at h
        cases h
      · simp only [compilingOnce, if_neg hpast] at h
        cases h
        exact ⟨_, rfl⟩
    · intro past command arguments failure h
      cases h
  exact ⟨hends, runs_fresh compilingOnce hends .bare backendRequest⟩

end PipelineAction

end BuildAudit
