import BuildAudit.Proofs.Build.Pipeline
import BuildAudit.Tools.Compiler

/-!
# Settled pipelines

A pipeline is settled if it is in a terminal stage, which is the last of its history and that of its
result. With any tools a first run either settles the pipeline or a failure halts it half-way, in
the stage that it has come to (`PipelineAction.run_fresh_cases`).

With tools that run as processes the only processes that halt a run are those whose directory is no
directory: every other end of a process is a success or a fault of the build. So no run leaves the
pipeline half-way just if the first one does not come to such a process
(`Toolchain.neverHalfway_iff`), and one such process is enough to leave it there.
-/

namespace BuildAudit

/-- A pipeline has come to its end and keeps the result of its run. -/
structure Pipeline.Settled (pipeline : Pipeline) : Prop where
  /-- Nothing follows the present stage. -/
  terminal : pipeline.stage.isTerminal = true
  /-- The present stage is the last one of the history. -/
  last : pipeline.history.getLast? = some pipeline.stage
  /-- There is a result, and the present stage is that of the result. -/
  result : ∃ result, pipeline.result? = some result ∧ result.stage = pipeline.stage

/-- A settled pipeline has run. -/
theorem Pipeline.Settled.stage_ne_idle {pipeline : Pipeline} (h : pipeline.Settled) :
    pipeline.stage ≠ .idle := by
  intro hidle
  have hterminal := h.terminal
  rw [hidle] at hterminal
  exact Bool.false_ne_true hterminal

/-- A stage that a run has come to and that something follows. -/
def Stage.IsHalfway (stage : Stage) : Prop :=
  stage ≠ .idle ∧ stage.isTerminal = false

/-- A pipeline that is half-way is not settled. -/
theorem Stage.IsHalfway.not_settled {pipeline : Pipeline} (h : pipeline.stage.IsHalfway) :
    ¬ pipeline.Settled := by
  intro hsettled
  have hterminal := hsettled.terminal
  rw [h.2] at hterminal
  exact Bool.false_ne_true hterminal

namespace PipelineAction

/-- A pipeline at the end of a run is settled. -/
theorem settled_of_moved (pipeline : Pipeline) (result : BuildResult)
    (h : result.stage.isTerminal = true) :
    Pipeline.Settled { pipeline.moved result.stage with result? := some result } where
  terminal := h
  last := List.getLast?_concat
  result := ⟨result, rfl, rfl⟩

/-- A step of a request is taken half-way. -/
theorem isHalfway_of_mem_steps {request : BuildRequest} {arguments : List String} {step : Step}
    (h : step ∈ request.steps arguments) : step.stage.IsHalfway := by
  rw [BuildRequest.steps] at h
  split at h
  · rw [List.mem_singleton.1 h]
    exact ⟨Stage.noConfusion, rfl⟩
  · simp only [List.mem_cons, List.not_mem_nil, or_false] at h
    rcases h with rfl | rfl | rfl <;> exact ⟨Stage.noConfusion, rfl⟩

/-- Steps are taken until a call does not return, and that call's failure ends them in its stage. -/
theorem take_cases (tools : Tools) (steps : List Step) (workshop : Workshop) :
    (tools.AllReturn workshop.session.calls (steps.map (·.call)) ∧
        ∃ later, take tools steps workshop = (.ok (), later)) ∨
      ∃ before step after failure later, steps = before ++ step :: after ∧
        tools.AllReturn workshop.session.calls (before.map (·.call)) ∧
        tools.answer (workshop.session.calls ++ before.map (·.call)) step.call = .error failure ∧
        take tools steps workshop = (.error failure, later) ∧
        later.pipeline.stage = step.stage := by
  -- The calls of the session are those before the next step, as they are for `take_apply`.
  induction steps generalizing workshop with
  | nil => exact Or.inl ⟨tools.allReturn_nil _, workshop, rfl⟩
  | cons step rest ih =>
    obtain ⟨session, hcalls, hstep⟩ := takeStep_apply tools step workshop
    rw [take]
    rcases hanswer : tools.answer workshop.session.calls step.call with failure | _
    · rw [hanswer] at hstep
      refine Or.inr ⟨[], step, rest, failure, _, rfl, tools.allReturn_nil _, ?_,
        bind_of_error hstep, rfl⟩
      rwa [List.map_nil, List.append_nil]
    · rw [hanswer] at hstep
      rw [bind_of_ok hstep]
      rcases ih { pipeline := workshop.pipeline.moved step.stage, session } with
        ⟨hreturn, hlater⟩ | ⟨before, other, after, failure, later, rfl, hreturn, hfailed, hlater⟩
      · rw [hcalls.calls_eq] at hreturn
        exact Or.inl ⟨tools.allReturn_cons hanswer hreturn, hlater⟩
      · rw [hcalls.calls_eq] at hreturn hfailed
        rw [List.append_assoc] at hfailed
        exact Or.inr ⟨step :: before, other, after, failure, later, rfl,
          tools.allReturn_cons hanswer hreturn, hfailed, hlater⟩

end PipelineAction

namespace Tools

variable (tools : Tools)

/-- A first run after the calls `past` is halted by a failure: an argument cannot be checked, or a
call that the run comes to ends with something else than a fault of the build. -/
inductive Halts (past : List ToolCall) (request : BuildRequest) : Failure → Prop
  | notText :
      Vetting request.backend? request.arguments (.error .argumentKind) →
      Halts past request .argumentKind
  | call {arguments : List String} {before after : List ToolCall} {call : ToolCall}
      {failure : Failure} :
      Vetting request.backend? request.arguments (.ok arguments) →
      (request.plan arguments).map (·.2) = before ++ call :: after →
      tools.AllReturn past before →
      tools.answer (past ++ before) call = .error failure →
      (∀ fault, failure ≠ .fault (.build fault)) →
      Halts past request failure

variable {tools} in
/-- Calls that all return end before any call that does not. -/
theorem AllReturn.length_le {past before after returned rest : List ToolCall} {call : ToolCall}
    {failure : Failure} (hreturn : tools.AllReturn past returned)
    (hsplit : before ++ call :: after = returned ++ rest)
    (hfailed : tools.answer (past ++ before) call = .error failure) :
    returned.length ≤ before.length := by
  rcases List.append_eq_append_iff.1 hsplit with ⟨more, rfl, hmore⟩ | ⟨more, rfl, -⟩
  · cases more with
    | nil => exact (List.append_nil before).symm ▸ Nat.le_refl _
    | cons first more =>
      -- The call itself would be among those that return.
      obtain ⟨rfl, -⟩ := List.cons.inj hmore
      rw [hreturn before call more rfl] at hfailed
      cases hfailed
  · -- The calls that return are the first of those before the call.
    exact List.length_append ▸ Nat.le_add_right _ _

variable {tools} in
/-- Of calls that are made in turn only one can be the first that does not return. -/
theorem AllReturn.failure_unique {past before before' after after' : List ToolCall}
    {call call' : ToolCall} {failure failure' : Failure} (hreturn : tools.AllReturn past before)
    (hreturn' : tools.AllReturn past before')
    (hsplit : before ++ call :: after = before' ++ call' :: after')
    (hfailed : tools.answer (past ++ before) call = .error failure)
    (hfailed' : tools.answer (past ++ before') call' = .error failure') : failure = failure' := by
  have hlength : before.length = before'.length :=
    Nat.le_antisymm (hreturn.length_le hsplit.symm hfailed') (hreturn'.length_le hsplit hfailed)
  obtain ⟨rfl, hcall⟩ := List.append_inj hsplit hlength
  obtain ⟨rfl, -⟩ := List.cons.inj hcall
  exact Except.error.inj (hfailed.symm.trans hfailed')

section Halting

variable {tools} {past : List ToolCall} {request : BuildRequest}

/-- Nothing halts a run whose arguments are refused. -/
theorem not_halts_of_refused {fault : BuildFault}
    (hrefused : Vetting request.backend? request.arguments (.error (.fault (.build fault))))
    (failure : Failure) : ¬ tools.Halts past request failure := by
  rintro (hvetting | ⟨hvetting, -⟩) <;> cases hvetting.unique hrefused

/-- Nothing halts a run whose calls all return. -/
theorem not_halts_of_allReturn {arguments : List String}
    (haccepted : Vetting request.backend? request.arguments (.ok arguments))
    (hreturn : tools.AllReturn past ((request.plan arguments).map (·.2))) (failure : Failure) :
    ¬ tools.Halts past request failure := by
  rintro (hvetting | ⟨hvetting, hplan, -, hfailed, -⟩)
  · cases hvetting.unique haccepted
  · cases hvetting.unique haccepted
    rw [hreturn _ _ _ hplan] at hfailed
    cases hfailed

/-- Nothing halts a run whose first call that does not return ends with a fault of the build. -/
theorem not_halts_of_fault {arguments : List String} {before after : List ToolCall}
    {call : ToolCall} {fault : BuildFault}
    (haccepted : Vetting request.backend? request.arguments (.ok arguments))
    (hplan : (request.plan arguments).map (·.2) = before ++ call :: after)
    (hreturn : tools.AllReturn past before)
    (hfault : tools.answer (past ++ before) call = .error (.fault (.build fault)))
    (failure : Failure) : ¬ tools.Halts past request failure := by
  rintro (hvetting | ⟨hvetting, hplan', hreturn', hfailed, hfailure⟩)
  · cases hvetting.unique haccepted
  · cases hvetting.unique haccepted
    exact hfailure fault (hreturn'.failure_unique hreturn (hplan'.symm.trans hplan) hfailed hfault)

end Halting

end Tools

namespace PipelineAction

variable (tools : Tools)

/-- A first run that comes to an end, or ends with a fault of the build, settles the pipeline. -/
theorem exists_settled_of_ending {request : BuildRequest} {session : Session}
    {fault? : Option BuildFault} {ended : Workshop}
    (h : proceed tools request { pipeline := .fresh, session } = (ending fault?, ended)) :
    ∃ result later, run tools request { pipeline := .fresh, session } = (.ok result, later) ∧
      later.pipeline.Settled ∧ later.pipeline.result? = some result := by
  obtain ⟨later, -, hrun⟩ := run_of_ending tools rfl h rfl
  refine ⟨_, _, hrun, settled_of_moved ended.pipeline { stage := _, fault? } ?_, rfl⟩
  cases fault? <;> rfl

/-- A first run settles the pipeline, or a failure halts it half-way. -/
theorem run_fresh_cases (request : BuildRequest) (session : Session) :
    ((∀ failure, ¬ tools.Halts session.calls request failure) ∧
        ∃ result later, run tools request { pipeline := .fresh, session } = (.ok result, later) ∧
          later.pipeline.Settled ∧ later.pipeline.result? = some result) ∨
      ∃ failure later, tools.Halts session.calls request failure ∧
        run tools request { pipeline := .fresh, session } = (.error failure, later) ∧
        later.pipeline.stage.IsHalfway := by
  let started : Workshop := { pipeline := .fresh, session }
  let entered : Workshop := (enter .validatingFlags started).2
  have hquiet : session.CallsOnly [] entered.session := .logged session [_]
  have hcalls : entered.session.calls = session.calls := hquiet.calls_eq_of_quiet
  -- First the arguments are checked. A flag that is refused is caught; what is no text is not.
  rcases hcheck : checkArguments request.backend? request.arguments with failure | arguments
  · have hvetting := vetting_iff.2 hcheck
    have hproceed := proceed_of_error tools hcheck started
    rcases hvetting.failure_cases with ⟨fault, rfl⟩ | rfl
    · have hended : proceed tools request started = (ending (some fault), entered) := hproceed
      exact Or.inl ⟨Tools.not_halts_of_refused hvetting, exists_settled_of_ending tools hended⟩
    · have hkind (fault : BuildFault) : Failure.argumentKind ≠ .fault (.build fault) :=
        Failure.noConfusion
      exact Or.inr ⟨_, _, .notText hvetting, run_of_halted tools hkind rfl hproceed,
        Stage.noConfusion, rfl⟩
  · have hvetting := vetting_iff.2 hcheck
    have hplan : (request.plan arguments).map (·.2) = (request.steps arguments).map (·.call) := by
      rw [request.plan_eq_map_steps, List.map_map]
      rfl
    have hproceed := proceed_of_ok tools hcheck started
    rcases take_cases tools (request.steps arguments) entered with
      ⟨hreturn, later, htake⟩ | ⟨before, step, after, failure, later, hsplit, hreturn, hfailed,
        htake, hstage⟩
    · rw [hcalls, ← hplan] at hreturn
      have hended : proceed tools request started = (ending none, later) := hproceed.trans htake
      exact Or.inl ⟨Tools.not_halts_of_allReturn hvetting hreturn,
        exists_settled_of_ending tools hended⟩
    · rw [hcalls] at hreturn hfailed
      rw [hsplit, List.map_append, List.map_cons] at hplan
      -- Only a fault of the build is caught; whatever else a call ends with passes through the run.
      by_cases hfault : ∃ fault, failure = .fault (.build fault)
      · obtain ⟨fault, rfl⟩ := hfault
        have hended : proceed tools request started = (ending (some fault), later) :=
          hproceed.trans htake
        exact Or.inl ⟨Tools.not_halts_of_fault hvetting hplan hreturn hfailed,
          exists_settled_of_ending tools hended⟩
      · rw [not_exists] at hfault
        have hhalfway : later.pipeline.stage.IsHalfway := by
          rw [hstage]
          exact isHalfway_of_mem_steps (hsplit ▸ List.mem_append_right _ (.head _))
        exact Or.inr ⟨failure, later, .call hvetting hplan hreturn hfailed hfault,
          run_of_halted tools hfault rfl (hproceed.trans htake), hhalfway⟩

/-- The pipeline and the session after runs for requests in turn. -/
def reached (session : Session) (requests : List BuildRequest) : Workshop :=
  (runs tools requests { pipeline := .fresh, session }).2

/-- Only the first run changes a pipeline and its session. -/
theorem reached_cons (session : Session) (first : BuildRequest) (rest : List BuildRequest) :
    reached tools session (first :: rest) =
      (run tools first { pipeline := .fresh, session }).2 := by
  -- Whether the first run settles or not, the pipeline is not idle after it.
  have hrun : ∃ outcome later,
      run tools first { pipeline := .fresh, session } = (outcome, later) ∧
        later.pipeline.stage ≠ .idle := by
    rcases run_fresh_cases tools first session with
      ⟨-, result, later, hrun, hsettled, -⟩ | ⟨failure, later, -, hrun, hhalfway⟩
    · exact ⟨_, later, hrun, hsettled.stage_ne_idle⟩
    · exact ⟨_, later, hrun, hhalfway.1⟩
  obtain ⟨outcome, later, hrun, hstage⟩ := hrun
  rw [reached, runs, bind_of_ok (outcome_apply _ _), hrun,
    bind_of_ok (runs_finished tools rest hstage)]
  rfl

/-- No run for one of the requests leaves the pipeline half-way. -/
structure NeverHalfway (session : Session) (requests : List BuildRequest) : Prop where
  /-- After each run the pipeline is settled. -/
  settles : ∀ made, made <+: requests → made ≠ [] →
    (reached tools session made).pipeline.Settled
  /-- A pipeline that says that it has finished is in a terminal stage, which it names. -/
  refuses : ∀ made request name, made ++ [request] <+: requests →
    (run tools request (reached tools session made)).1 =
        .error (.fault (.build (.finished name))) →
      (reached tools session made).pipeline.stage.isTerminal = true ∧
        name = (reached tools session made).pipeline.stage.name

/-- No run leaves a pipeline half-way just if nothing halts the first one. -/
theorem neverHalfway_iff_not_halts (session : Session) (requests : List BuildRequest) :
    NeverHalfway tools session requests ↔
      ∀ first ∈ requests.head?, ∀ failure, ¬ tools.Halts session.calls first failure := by
  cases requests with
  | nil =>
    have hnone (first : BuildRequest) : first ∉ ([] : List BuildRequest).head? :=
      Option.not_mem_none first
    -- Without requests nothing is reached but the fresh pipeline.
    refine ⟨fun _ first hfirst => absurd hfirst (hnone first), fun _ => ⟨?_, ?_⟩⟩
    · exact fun made hmade hne => absurd (List.prefix_nil.1 hmade) hne
    · exact fun made request name hmade _ => absurd (List.prefix_nil.1 hmade) (by simp)
  | cons first rest =>
    have hhead : (∀ other ∈ (first :: rest).head?, ∀ failure,
        ¬ tools.Halts session.calls other failure) ↔
        ∀ failure, ¬ tools.Halts session.calls first failure := by
      simp only [List.head?_cons, Option.mem_some_iff, forall_eq']
    rw [hhead]
    rcases run_fresh_cases tools first session with
      ⟨hnone, result, later, hrun, hsettled, -⟩ | ⟨failure, later, hhalts, hrun, hhalfway⟩
    · -- Whatever has been run, the pipeline is as it was after the first run.
      have hlater (others : List BuildRequest) :
          reached tools session (first :: others) = later := by
        rw [reached_cons, hrun]
      refine ⟨fun _ => hnone, fun _ => ⟨?_, ?_⟩⟩
      · rintro (_ | ⟨other, others⟩) hmade hne
        · exact absurd rfl hne
        · obtain ⟨rfl, -⟩ := List.cons_prefix_cons.1 hmade
          rw [hlater]
          exact hsettled
      · rintro (_ | ⟨other, others⟩) request name hmade hrefused
        · -- A fresh pipeline refuses nothing: this run has a result.
          obtain ⟨rfl, -⟩ := List.cons_prefix_cons.1 hmade
          have hfresh : reached tools session [] = { pipeline := .fresh, session } := rfl
          rw [hfresh, hrun] at hrefused
          cases hrefused
        · obtain ⟨rfl, -⟩ := List.cons_prefix_cons.1 hmade
          rw [hlater] at hrefused ⊢
          rw [run_finished tools request hsettled.stage_ne_idle] at hrefused
          cases hrefused
          exact ⟨hsettled.terminal, rfl⟩
    · -- The first run has left the pipeline half-way, and that is where it stays.
      refine ⟨fun hnever => ?_, fun hnone => absurd hhalts (hnone failure)⟩
      have hsettled := hnever.settles [first] ⟨rest, rfl⟩ (List.cons_ne_nil _ _)
      rw [reached_cons, hrun] at hsettled
      exact absurd hsettled hhalfway.not_settled

end PipelineAction

namespace Toolchain

variable (toolchain : Toolchain) (processes : Processes)

/-- A first run after the calls `past` comes to an argument that cannot be checked, or to a process
whose directory is no directory. -/
inductive Strands (past : List ToolCall) (request : BuildRequest) : Prop
  | notText :
      Vetting request.backend? request.arguments (.error .argumentKind) → Strands past request
  | noDirectory {arguments : List String} {before after : List ToolCall} {call : ToolCall} :
      Vetting request.backend? request.arguments (.ok arguments) →
      (request.plan arguments).map (·.2) = before ++ call :: after →
      (toolchain.tools processes).AllReturn past before →
      toolchain.outcomeOf processes (past ++ before) call = .noDirectory →
      Strands past request

variable {toolchain processes} in
/-- A process whose directory is no directory fails the action as a whole. -/
theorem answer_of_noDirectory {past : List ToolCall} {call : ToolCall}
    (h : toolchain.outcomeOf processes past call = .noDirectory) :
    (toolchain.tools processes).answer past call = .error .processDirectory := by
  cases call <;>
  · simp only [Tools.answer, tools]
    rw [h]
    rfl

variable {toolchain} in
/-- Every other process that fails in a compilation is a fault of the build. -/
theorem noDirectory_or_fault_of_compileAnswer {arguments : List String} {ended : ProcessOutcome}
    {failure : Failure} (h : toolchain.compileAnswer arguments ended = .error failure) :
    ended = .noDirectory ∨ ∃ fault, failure = .fault (.build fault) := by
  cases ended with
  | noDirectory => exact Or.inl rfl
  | exited code output complaint =>
    rw [compileAnswer] at h
    split at h
    · cases h
    · exact Or.inr ⟨_, (Except.error.inj h).symm⟩
  | notStarted text => exact Or.inr ⟨_, (Except.error.inj h).symm⟩
  | timedOut => exact Or.inr ⟨_, (Except.error.inj h).symm⟩

variable {toolchain} in
/-- Every other process that fails as a backend is a fault of the build. -/
theorem noDirectory_or_fault_of_backendAnswer {command : String} {ended : ProcessOutcome}
    {failure : Failure} (h : toolchain.backendAnswer command ended = .error failure) :
    ended = .noDirectory ∨ ∃ fault, failure = .fault (.build fault) := by
  cases ended with
  | noDirectory => exact Or.inl rfl
  | exited code output complaint =>
    rw [backendAnswer] at h
    split at h
    · cases h
    · exact Or.inr ⟨_, (Except.error.inj h).symm⟩
  | notStarted text => exact Or.inr ⟨_, (Except.error.inj h).symm⟩
  | timedOut => exact Or.inr ⟨_, (Except.error.inj h).symm⟩

variable {toolchain processes} in
/-- A call of a build that does not return either has a process whose directory is no directory, or
ends with a fault of the build. -/
theorem noDirectory_or_fault_of_answer {past : List ToolCall} {call : ToolCall}
    (hcall : call.isGraph = false) {failure : Failure}
    (h : (toolchain.tools processes).answer past call = .error failure) :
    toolchain.outcomeOf processes past call = .noDirectory ∨
      ∃ fault, failure = .fault (.build fault) := by
  cases call with
  | compile globs arguments => exact noDirectory_or_fault_of_compileAnswer h
  | graph globs arguments => cases hcall
  | backend command arguments => exact noDirectory_or_fault_of_backendAnswer h

/-- With tools that run as processes a first run is halted just if it is stranded. -/
theorem exists_halts_iff_strands (past : List ToolCall) (request : BuildRequest) :
    (∃ failure, (toolchain.tools processes).Halts past request failure) ↔
      toolchain.Strands processes past request := by
  constructor
  · rintro ⟨failure, hvetting | ⟨hvetting, hplan, hreturn, hfailed, hfailure⟩⟩
    · exact .notText hvetting
    -- The call is one of the plan, so it asks for no import graph, and the one other way for it to
    -- end is the missing directory.
    · have hcall := BuildRequest.isGraph_of_mem_plan
        (hplan ▸ List.mem_append_right _ (.head _))
      have hended := (noDirectory_or_fault_of_answer hcall hfailed).resolve_right
        (not_exists.2 hfailure)
      exact .noDirectory hvetting hplan hreturn hended
  · rintro (hvetting | ⟨hvetting, hplan, hreturn, hended⟩)
    · exact ⟨_, .notText hvetting⟩
    · exact ⟨_, .call hvetting hplan hreturn (answer_of_noDirectory hended)
        fun _ => Failure.noConfusion⟩

/-- With tools that run as processes no run leaves a pipeline half-way, unless the first one comes
to an argument that cannot be checked or to a process whose directory is no directory. -/
theorem neverHalfway_iff (session : Session) (requests : List BuildRequest) :
    PipelineAction.NeverHalfway (toolchain.tools processes) session requests ↔
      ∀ first ∈ requests.head?, ¬ toolchain.Strands processes session.calls first := by
  rw [PipelineAction.neverHalfway_iff_not_halts]
  simp only [← exists_halts_iff_strands, not_exists]

end Toolchain

/-- A compiler that is called by its own name, for a workspace without packages. -/
def Toolchain.bare : Toolchain where
  compiler := "purs"
  ownership := .ofPairs []

/-- Processes whose directory is no directory. -/
def ProcessScript.homeless : ProcessScript where
  runs := [.noDirectory]
  captures := []

/-- A request to compile with arguments. -/
def compileRequest (arguments : List Value) : BuildRequest where
  globs := ["app/src/**/*.purs"]
  arguments := arguments
  output? := none
  backend? := none

/-- A compiler that is to start in no directory leaves the pipeline in the midst of the compilation,
without a result, and a second run is told that the pipeline has finished. -/
theorem not_neverHalfway_homeless :
    let tools := Toolchain.bare.tools ProcessScript.homeless.processes
    let requests := [compileRequest [.string "--strict"], compileRequest []]
    (∃ later, PipelineAction.runs tools requests { pipeline := .fresh, session := .bare } =
        (.ok [.error .processDirectory, .error (.fault (.build (.finished "compiling")))], later) ∧
      later.pipeline = {
        stage := .compiling
        history := [.idle, .validatingFlags, .compiling]
        result? := none }) ∧
      ¬ PipelineAction.NeverHalfway tools .bare requests := by
  intro tools requests
  have hruns : PipelineAction.runs tools requests { pipeline := .fresh, session := .bare } =
      (.ok [.error .processDirectory, .error (.fault (.build (.finished "compiling")))],
        (PipelineAction.runs tools requests { pipeline := .fresh, session := .bare }).2) :=
    Prod.ext rfl rfl
  refine ⟨⟨_, hruns, rfl⟩, fun hnever => ?_⟩
  have hsettled := (hnever.settles requests List.prefix_rfl (List.cons_ne_nil _ _)).terminal
  cases hsettled

end BuildAudit
