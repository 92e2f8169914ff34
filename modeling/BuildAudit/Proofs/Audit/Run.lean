import BuildAudit.Build.Run
import BuildAudit.Proofs.Session
import BuildAudit.Proofs.Workspace

/-!
# The course of an audit

After a build the packages of a plan are audited, each with one call for its import graph. What
comes of a package is its verdict, which only depends on the answer to that call
(`auditPackage_apply`). The packages are taken in the order of the plan, so the calls are made in
that order, and the verdict of a package is about the answer that the tool gives after the calls for
the packages before (`inTurn_auditPackage`).
-/

namespace BuildAudit

variable (workspace : Workspace) (settings : Settings) (tools : Tools)

/-- The arguments of the settings that are texts. -/
def Settings.textArguments (settings : Settings) : List String :=
  settings.compilerArguments.filterMap Value.asString?

/-- The call for the import graph of a package. -/
def graphCall (package : Package) : ToolCall :=
  .graph (workspace.auditGlobs package) settings.textArguments

/-- What the tool answers to the call for the import graph of a package. -/
def graphAnswer (past : List ToolCall) (package : Package) : Except Failure ImportGraph :=
  (tools.graph past (workspace.auditGlobs package) settings.textArguments).answer

/-- What comes of a package: the diagnostics about its import graph, nothing if that cannot be had,
or a failure of the audit as a whole. -/
def verdict (package : Package) : Except Failure ImportGraph → Except Failure (List Diagnostic)
  | .ok graph =>
    .ok ((graph.usage package.name package.dependencies).diagnostics package.name
      settings.installCommand)
  | .error (.fault (.graph _)) => .ok []
  | .error failure => .error failure

/-- The verdicts on packages that are audited in turn after the calls `past`. -/
def verdicts (past : List ToolCall) : List Package → List (Except Failure (List Diagnostic))
  | [] => []
  | package :: rest =>
    verdict settings package (graphAnswer workspace settings tools past package) ::
      verdicts (past ++ [graphCall workspace settings package]) rest

/-- The verdict on a package after others is about the answer after the calls for those. -/
theorem verdicts_append (past : List ToolCall) (before after : List Package) :
    verdicts workspace settings tools past (before ++ after) =
      verdicts workspace settings tools past before ++
        verdicts workspace settings tools (past ++ before.map (graphCall workspace settings))
          after := by
  induction before generalizing past with
  | nil => rw [List.nil_append, List.map_nil, List.append_nil, verdicts, List.nil_append]
  | cons package rest ih =>
    rw [List.cons_append, verdicts, ih, verdicts, List.map_cons, List.append_assoc,
      List.singleton_append, List.cons_append]

/-- A package is compared with its import graph, which is logged. -/
theorem compare_apply (packages : List Package) {package : Package}
    (hpackage : package ∈ workspace.packages) (graph : ImportGraph) (session : Session) :
    ∃ later, session.CallsOnly [] later ∧
      (auditContext workspace settings tools packages).compare package graph session =
        (verdict settings package (.ok graph), later) := by
  have hdeclared : Action.ofExcept
      ((auditContext workspace settings tools packages).declaredOf package.name) session =
        (.ok package.dependencies, session) := by
    rw [auditContext, Action.ofExcept_apply]
    dsimp only
    rw [workspace.packageOf_name hpackage]
    rfl
  rw [AuditContext.compare, bind_of_ok hdeclared]
  exact ⟨_, .logged session [_], bind_of_ok (Action.logAll_apply _ session)⟩

/-- A package is left out, which is logged. -/
theorem skip_apply (package : Package) (fault : GraphFault) (session : Session) :
    ∃ later, session.CallsOnly [] later ∧
      AuditContext.skip package fault.cause session =
        (verdict settings package (.error (.fault (.graph fault))), later) :=
  ⟨_, .logged session [_], bind_of_ok (Action.log_apply _ _ session)⟩

/-- Auditing a package takes one call and gives the verdict on the answer. -/
theorem auditPackage_apply (packages : List Package) {package : Package}
    (hpackage : package ∈ workspace.packages) (session : Session) :
    ∃ later, session.CallsOnly [graphCall workspace settings package] later ∧
      (auditContext workspace settings tools packages).auditPackage package session =
        (verdict settings package (graphAnswer workspace settings tools session.calls package),
          later) := by
  let context := auditContext workspace settings tools packages
  let asked := session.extend
    (tools.callEvents session.calls (graphCall workspace settings package))
  have hcalls : session.CallsOnly [graphCall workspace settings package] asked :=
    tools.callsOnly_callEvents session session.calls _
  have hasked : context.graphOf (workspace.auditGlobs package) session =
      (graphAnswer workspace settings tools session.calls package, asked) :=
    tools.runGraph_apply _ _ session
  have hglobs : Action.ofExcept (context.globsFor package) session =
      (.ok (workspace.auditGlobs package), session) := rfl
  rw [AuditContext.auditPackage, bind_of_ok hglobs, bind_of_ok (Action.outcome_apply _ session),
    hasked]
  -- Only a fault of the graph leaves the package out; any other failure ends the audit.
  rcases graphAnswer workspace settings tools session.calls package with failure | graph
  · cases failure with
    | fault cause =>
      cases cause with
      | graph fault =>
        obtain ⟨later, hlater, hskip⟩ := skip_apply settings package fault asked
        exact ⟨later, hcalls.trans hlater, hskip⟩
      | _ => exact ⟨asked, hcalls, rfl⟩
    | _ => exact ⟨asked, hcalls, rfl⟩
  · obtain ⟨later, hlater, hcompare⟩ :=
      compare_apply workspace settings tools packages hpackage graph asked
    exact ⟨later, hcalls.trans hlater, hcompare⟩

/-- Packages that are audited in turn take one call each, and each has a verdict. -/
theorem inTurn_auditPackage (packages : List Package) {list : List Package}
    (hlist : ∀ package ∈ list, package ∈ workspace.packages) {session later : Session}
    {found : List (List Diagnostic)}
    (h : Action.inTurn (list.map (auditContext workspace settings tools packages).auditPackage)
      session = (.ok found, later)) :
    session.CallsOnly (list.map (graphCall workspace settings)) later ∧
      verdicts workspace settings tools session.calls list = found.map .ok := by
  -- The others start from the session after the first package, so its calls are their past.
  induction list generalizing session found with
  | nil =>
    cases h
    exact ⟨.refl _, rfl⟩
  | cons package rest ih =>
    obtain ⟨hpackage, hrest⟩ := List.forall_mem_cons.1 hlist
    rw [List.map_cons] at h
    obtain ⟨first, others, middle, hfirst, hothers, rfl⟩ := Action.inTurn_cons_eq_ok.1 h
    obtain ⟨later, hcalls, hverdict⟩ :=
      auditPackage_apply workspace settings tools packages hpackage session
    rw [hverdict, Prod.mk.injEq] at hfirst
    obtain ⟨hok, rfl⟩ := hfirst
    obtain ⟨hmore, hfound⟩ := ih hrest hothers
    rw [hcalls.calls_eq] at hfound
    refine ⟨hcalls.trans hmore, ?_⟩
    rw [verdicts, hok, hfound, List.map_cons]

/-- Packages can be audited in turn if no verdict is a failure of the audit as a whole. -/
theorem exists_inTurn_auditPackage (packages : List Package) {list : List Package}
    (hlist : ∀ package ∈ list, package ∈ workspace.packages) (session : Session)
    {found : List (List Diagnostic)}
    (h : verdicts workspace settings tools session.calls list = found.map .ok) :
    ∃ later, Action.inTurn (list.map (auditContext workspace settings tools packages).auditPackage)
      session = (.ok found, later) := by
  induction list generalizing session found with
  | nil =>
    rw [verdicts, eq_comm, List.map_eq_nil_iff] at h
    exact ⟨session, by rw [h]; rfl⟩
  | cons package rest ih =>
    obtain ⟨hpackage, hrest⟩ := List.forall_mem_cons.1 hlist
    rw [verdicts, eq_comm, List.map_eq_cons_iff] at h
    obtain ⟨first, others, rfl, hfirst, hothers⟩ := h
    obtain ⟨middle, hcalls, hverdict⟩ :=
      auditPackage_apply workspace settings tools packages hpackage session
    -- The rest is audited after the call for this package.
    rw [← hcalls.calls_eq] at hothers
    obtain ⟨later, hlater⟩ := ih hrest middle hothers.symm
    rw [← hfirst] at hverdict
    exact ⟨later, Action.inTurn_cons_eq_ok.2 ⟨first, others, middle, hverdict, hlater, rfl⟩⟩

/-- Side by side or in turn, packages are audited with the same results. -/
theorem auditPackages_eq_ok_iff (context : AuditContext) (workers : Value) (list : List Package)
    {session later : Session} {found : List (List Diagnostic)} :
    context.auditPackages workers list session = (.ok found, later) ↔
      Action.inTurn (list.map context.auditPackage) session = (.ok found, later) := by
  rw [AuditContext.auditPackages]
  -- With one worker, or fewer than two packages, the audit does them in turn anyway.
  split
  · exact Iff.rfl
  · exact Action.all_eq_ok_iff

/-- The record at the start of an audit. -/
def auditNotice : LogRecord where
  level := .info
  text := "Looking for unused and undeclared transitive dependencies..."

/-- An audit checks the number of workers, audits its packages in turn, and logs it if nothing is
found. -/
theorem audit_of_ok {context : AuditContext} {workers : Value} {scope : Scope} {list : List Package}
    (hworkers : AuditContext.checkWorkers workers = .ok ())
    (hscope : context.packagesIn scope = .ok list) {session middle : Session}
    {found : List (List Diagnostic)}
    (hfound : Action.inTurn (list.map context.auditPackage)
      (session.extend [.logged auditNotice]) = (.ok found, middle)) :
    ∃ later, middle.CallsOnly [] later ∧
      context.audit workers scope session = (.ok found.flatten, later) := by
  have hpackages := (auditPackages_eq_ok_iff context workers list).2 hfound
  rw [auditNotice] at hpackages
  rw [AuditContext.audit, hworkers, hscope, bind_of_ok (Action.ofExcept_apply (.ok ()) session),
    bind_of_ok (Action.ofExcept_apply (.ok list) session),
    bind_of_ok (Action.log_apply _ _ session), bind_of_ok hpackages]
  split
  · exact ⟨_, .logged middle [_], bind_of_ok (Action.log_apply _ _ middle)⟩
  · exact ⟨middle, .refl middle, rfl⟩

/-- An audit that comes to an end has audited its packages in turn. -/
theorem audit_eq_ok {context : AuditContext} {workers : Value} {scope : Scope}
    {session later : Session} {diagnostics : List Diagnostic}
    (h : context.audit workers scope session = (.ok diagnostics, later)) :
    ∃ list found middle, context.packagesIn scope = .ok list ∧
      Action.inTurn (list.map context.auditPackage)
        (session.extend [.logged auditNotice]) = (.ok found, middle) ∧
      middle.CallsOnly [] later ∧ diagnostics = found.flatten := by
  rw [AuditContext.audit] at h
  obtain ⟨_, _, hworkers, h⟩ := bind_eq_ok.1 h
  rw [Action.ofExcept_apply, Prod.mk.injEq] at hworkers
  obtain ⟨-, rfl⟩ := hworkers
  obtain ⟨list, _, hscope, h⟩ := bind_eq_ok.1 h
  rw [Action.ofExcept_apply, Prod.mk.injEq] at hscope
  obtain ⟨hscope, rfl⟩ := hscope
  rw [bind_of_ok (Action.log_apply _ _ session)] at h
  obtain ⟨found, middle, hfound, h⟩ := bind_eq_ok.1 h
  -- Only the record that nothing was found may follow the audits.
  have hturn := (auditPackages_eq_ok_iff context workers list).1 hfound
  refine ⟨list, found, middle, hscope, hturn, ?_⟩
  split at h
  · rw [bind_of_ok (Action.log_apply _ _ middle)] at h
    cases h
    exact ⟨.logged _ [_], rfl⟩
  · cases h
    exact ⟨.refl _, rfl⟩

/-- The packages of a plan are packages of the workspace, and the audit that is planned is about
them. -/
theorem auditPlan_eq_some {all : Bool} {selected? : Option String} {scope : Scope}
    {packages : List Package}
    (h : auditPlan workspace all selected? = .ok (some (scope, packages))) :
    packages.Sublist workspace.packages ∧
      (auditContext workspace settings tools packages).packagesIn scope = .ok packages := by
  have hsublist := workspace.audited_sublist all
  unfold auditPlan at h
  split at h
  · next name =>
    -- The selected package is known, since there is a plan.
    obtain ⟨package, hpackage, h⟩ : ∃ package, workspace.packageOf name = .ok package ∧
        (if (workspace.audited all).contains package then
          some (Scope.single package.name, [package]) else none) = some (scope, packages) := by
      rcases hfound : workspace.packageOf name with fault | package
      · rw [hfound] at h
        cases h
      · rw [hfound] at h
        exact ⟨package, rfl, Except.ok.inj h⟩
    split at h
    · next hmem =>
      cases h
      rw [List.contains_iff_mem] at hmem
      refine ⟨(List.singleton_sublist.2 hmem).trans hsublist, ?_⟩
      rw [AuditContext.packagesIn, auditContext]
      dsimp only
      have hfound : [package].find? (·.name == package.name) = some package :=
        List.find?_cons_of_pos (beq_self_eq_true package.name)
      rw [package.name_canonical, hfound]
    · cases h
  · have hchosen := Except.ok.inj h
    split at hchosen
    · cases hchosen
    · cases hchosen
      exact ⟨hsublist, rfl⟩

/-- There is a plan unless a selected package is unknown. -/
theorem exists_auditPlan (all : Bool) {selected? : Option String}
    (h : ∀ name, selected? = some name → ¬ workspace.Lacks name) :
    ∃ plan?, auditPlan workspace all selected? = .ok plan? := by
  cases selected? with
  | none => exact ⟨_, rfl⟩
  | some name =>
    obtain ⟨package, hpackage, hname⟩ :=
      (workspace.lacks_or_exists name).resolve_left (h name rfl)
    rw [auditPlan, workspace.packageOf_of_name_eq hpackage hname]
    exact ⟨_, rfl⟩

/-- A report about a successful build is about packages of the workspace. Each of them took one call
for its import graph, and what is found about them are their verdicts. -/
theorem auditAfter_eq_ok {selected? : Option String} {result : BuildResult} {report : BuildReport}
    {session later : Session}
    (h : auditAfter workspace settings tools selected? result session = (.ok report, later)) :
    ∃ (packages : List Package) (found : List (List Diagnostic)),
      packages.Sublist workspace.packages ∧
      session.CallsOnly (packages.map (graphCall workspace settings)) later ∧
      verdicts workspace settings tools session.calls packages = found.map .ok ∧
      report = { result, diagnostics := found.flatten, audited := packages.map (·.name) } := by
  rw [auditAfter] at h
  obtain ⟨plan?, _, hplan, h⟩ := bind_eq_ok.1 h
  rw [Action.ofConfig, Action.ofExcept_apply, Prod.mk.injEq] at hplan
  obtain ⟨hplan, rfl⟩ := hplan
  cases plan? with
  | none =>
    cases h
    exact ⟨[], [], List.nil_sublist _, .refl _, rfl, rfl⟩
  | some plan =>
    obtain ⟨scope, packages⟩ := plan
    have hplan' : auditPlan workspace settings.auditAll.isOn selected? =
        .ok (some (scope, packages)) := by
      rcases hcases : auditPlan workspace settings.auditAll.isOn selected? with fault | plan?
      · rw [hcases] at hplan
        cases hplan
      · rw [hcases] at hplan
        exact congrArg Except.ok (Except.ok.inj hplan)
    obtain ⟨hsublist, hscope⟩ := auditPlan_eq_some workspace settings tools hplan'
    obtain ⟨diagnostics, last, haudit, h⟩ := bind_eq_ok.1 h
    cases h
    -- The scope of the plan has the packages of the plan, in the same order.
    obtain ⟨list, found, middle, hlist, hturn, hquiet, rfl⟩ := audit_eq_ok haudit
    rw [hscope, Except.ok.injEq] at hlist
    subst hlist
    obtain ⟨hcalls, hverdicts⟩ := inTurn_auditPackage workspace settings tools packages
      (fun package hpackage => hsublist.subset hpackage) hturn
    -- The record at the start of the audit is no call.
    have hnoticed := Session.CallsOnly.logged session [auditNotice]
    have hbefore : (session.extend [.logged auditNotice]).calls = session.calls :=
      hnoticed.calls_eq_of_quiet
    rw [hbefore] at hverdicts
    exact ⟨packages, found, hsublist, hnoticed.between_quiet hcalls hquiet, hverdicts, rfl⟩

/-- Calls for an import graph that fail only with faults of the graph lead to verdicts on all
packages. -/
theorem exists_verdicts
    (hgraph : ∀ past globs arguments failure,
      (tools.graph past globs arguments).answer = .error failure →
        ∃ fault, failure = .fault (.graph fault))
    (past : List ToolCall) (list : List Package) :
    ∃ found : List (List Diagnostic),
      verdicts workspace settings tools past list = found.map .ok := by
  induction list generalizing past with
  | nil => exact ⟨[], rfl⟩
  | cons package rest ih =>
    obtain ⟨found, hfound⟩ := ih (past ++ [graphCall workspace settings package])
    rw [verdicts, hfound]
    rcases hanswer : graphAnswer workspace settings tools past package with failure | graph
    · obtain ⟨fault, rfl⟩ := hgraph _ _ _ failure hanswer
      exact ⟨[] :: found, rfl⟩
    · exact ⟨_ :: found, rfl⟩

/-- If calls for an import graph fail only with faults of the graph, an audit gives a report unless
the number of workers is not allowed, and then it makes no call. -/
theorem auditAfter_cases
    (hgraph : ∀ past globs arguments failure,
      (tools.graph past globs arguments).answer = .error failure →
        ∃ fault, failure = .fault (.graph fault))
    {selected? : Option String} (hselected : ∀ name, selected? = some name → ¬ workspace.Lacks name)
    (result : BuildResult) (session : Session) :
    (∃ report later,
        auditAfter workspace settings tools selected? result session = (.ok report, later)) ∨
      ∃ failure, AuditContext.checkWorkers settings.jobs = .error failure ∧
        auditAfter workspace settings tools selected? result session =
          (.error failure, session) := by
  obtain ⟨plan?, hplan⟩ := exists_auditPlan workspace settings.auditAll.isOn hselected
  have hconfig : Action.ofConfig (auditPlan workspace settings.auditAll.isOn selected?) session =
      (.ok plan?, session) := by
    rw [hplan]
    rfl
  rw [auditAfter, bind_of_ok hconfig]
  cases plan? with
  | none => exact Or.inl ⟨_, _, rfl⟩
  | some plan =>
    obtain ⟨scope, packages⟩ := plan
    obtain ⟨hsublist, hscope⟩ := auditPlan_eq_some workspace settings tools hplan
    -- The number of workers is checked before anything else, so a wrong one makes no call.
    rcases hworkers : AuditContext.checkWorkers settings.jobs with failure | _
    · refine Or.inr ⟨failure, rfl, bind_of_error ?_⟩
      rw [AuditContext.audit, hworkers]
      exact bind_of_error (Action.ofExcept_apply (.error failure) session)
    · obtain ⟨found, hfound⟩ := exists_verdicts workspace settings tools hgraph
        (session.extend [.logged auditNotice]).calls packages
      obtain ⟨middle, hturn⟩ := exists_inTurn_auditPackage workspace settings tools packages
        (fun package hpackage => hsublist.subset hpackage) _ hfound
      obtain ⟨later, -, haudit⟩ := audit_of_ok hworkers hscope hturn
      exact Or.inl ⟨_, later, bind_of_ok haudit⟩

end BuildAudit
