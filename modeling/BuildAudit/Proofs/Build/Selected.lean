import BuildAudit.Proofs.Build.Report
import BuildAudit.Proofs.Build.Run
import BuildAudit.Proofs.Build.Settled
import BuildAudit.Proofs.Settings.Basic

/-!
# Selecting a package

A selected package changes what is compiled and the scope of the audit, but not the calls for import
graphs. So with a compiler whose import graphs only depend on the call, what is found about a
package is the same in every build (`finding`), a report consists of the findings about the packages
that are planned (`runBuild_of_succeeded`), and the report about a selected package is the part of
the full report that is about this package (`runBuild_selected`).
-/

namespace BuildAudit

/-- The import graph of a call does not depend on the calls before, and a call that has none ends
with a fault of the graph. -/
structure Tools.GraphsByCall (tools : Tools) : Prop where
  /-- A call is answered alike whatever was called before. -/
  alike : ∀ past past' globs arguments,
    (tools.graph past globs arguments).answer = (tools.graph past' globs arguments).answer
  /-- A call without an import graph ends with a fault of the graph. -/
  fault : ∀ past globs arguments failure,
    (tools.graph past globs arguments).answer = .error failure →
      ∃ fault, failure = .fault (.graph fault)

/-- Settings that are made from a table have a number of workers that is allowed. -/
theorem Settings.checkJobs_of_ofTable {fields : Table Value} {backend? : Option Backend}
    {settings : Settings} (h : ofTable fields backend? = .ok settings) :
    checkJobs settings.jobs = .ok () := by
  obtain ⟨-, -, -, hallowed⟩ := ofTable_eq_ok_iff.1 h
  exact checkJobs_eq_ok_iff.2 hallowed.jobs

/-- Builds and audits agree on which numbers of workers are allowed. -/
theorem AuditContext.checkWorkers_of_checkJobs {jobs : Value}
    (h : Settings.checkJobs jobs = .ok ()) : checkWorkers jobs = .ok () := by
  rw [Settings.checkJobs] at h
  rcases hbelow : Settings.isBelowOne? jobs with _ | below
  · rw [hbelow] at h
    cases h
  · cases below with
    | true =>
      rw [hbelow] at h
      cases h
    | false => rw [checkWorkers, hbelow]

namespace Workspace

variable (workspace : Workspace)

/-- The packages that an audit is about: of those to audit all, or only the selected one. -/
def planned (all : Bool) : Option String → List Package
  | none => workspace.audited all
  | some name => (workspace.audited all).filter (·.name == canonicalName name)

/-- A selected package is planned just if it is one of those to audit. -/
theorem planned_of_mem {package : Package} (hpackage : package ∈ workspace.packages) {name : String}
    (hname : package.name = canonicalName name) (all : Bool) :
    workspace.planned all (some name) =
      if package ∈ workspace.audited all then [package] else [] := by
  have hsublist := workspace.audited_sublist all
  rw [planned, ← hname]
  by_cases hmem : package ∈ workspace.audited all
  · rw [if_pos hmem]
    exact filter_name_eq_singleton (workspace.names_nodup.sublist (hsublist.map _)) hmem
  · rw [if_neg hmem, List.filter_eq_nil_iff]
    intro other hother hsame
    -- Names tell the packages of a workspace apart.
    have heq := workspace.eq_of_name_eq (hsublist.subset hother) hpackage (beq_iff_eq.1 hsame)
    exact hmem (heq ▸ hother)

/-- A plan is about the packages that are planned, if the selected package is known. -/
theorem exists_auditPlan_planned (all : Bool) {selected? : Option String}
    (h : ∀ name, selected? = some name → ¬ workspace.Lacks name) :
    (workspace.planned all selected? = [] ∧ auditPlan workspace all selected? = .ok none) ∨
      ∃ scope, auditPlan workspace all selected? =
        .ok (some (scope, workspace.planned all selected?)) := by
  cases selected? with
  | none =>
    rw [auditPlan, planned]
    by_cases hnone : workspace.audited all = []
    · rw [hnone]
      exact Or.inl ⟨rfl, rfl⟩
    · rw [if_neg (by rwa [List.isEmpty_iff])]
      exact Or.inr ⟨_, rfl⟩
  -- The selected package is there; it is planned just if it is among the audited ones.
  | some name =>
    obtain ⟨package, hpackage, hname⟩ :=
      (workspace.lacks_or_exists name).resolve_left (h name rfl)
    rw [auditPlan, workspace.packageOf_of_name_eq hpackage hname,
      workspace.planned_of_mem hpackage hname]
    by_cases hmem : package ∈ workspace.audited all
    · rw [if_pos hmem]
      refine Or.inr ⟨.single package.name, ?_⟩
      dsimp only [bind, Except.bind]
      rw [if_pos (List.contains_iff_mem.2 hmem)]
      rfl
    · rw [if_neg hmem]
      refine Or.inl ⟨rfl, ?_⟩
      dsimp only [bind, Except.bind]
      rw [if_neg (by rwa [List.contains_iff_mem])]
      rfl

end Workspace

variable (workspace : Workspace) (settings : Settings) (tools : Tools)

/-- What is found about a package that is asked for before anything else. -/
def finding (package : Package) : List Diagnostic :=
  (verdict settings package (graphAnswer workspace settings tools [] package)).toOption.getD []

section Findings

variable {tools} (hgraphs : tools.GraphsByCall)

include hgraphs

/-- What is found about a package does not depend on the calls before. -/
theorem verdict_eq_finding (past : List ToolCall) (package : Package) :
    verdict settings package (graphAnswer workspace settings tools past package) =
      .ok (finding workspace settings tools package) := by
  have halike : graphAnswer workspace settings tools past package =
      graphAnswer workspace settings tools [] package := hgraphs.alike ..
  rw [finding, halike]
  rcases hanswer : graphAnswer workspace settings tools [] package with failure | graph
  · obtain ⟨fault, rfl⟩ := hgraphs.fault _ _ _ failure hanswer
    rfl
  · rfl

/-- The verdicts on packages are what is found about them. -/
theorem verdicts_eq_findings (past : List ToolCall) (list : List Package) :
    verdicts workspace settings tools past list =
      (list.map (finding workspace settings tools)).map .ok := by
  induction list generalizing past with
  | nil => rfl
  | cons package rest ih =>
    rw [verdicts, verdict_eq_finding workspace settings hgraphs, ih, List.map_cons, List.map_cons]

/-- What is found about a package is about that package. -/
theorem package_eq_of_mem_finding (package : Package) :
    ∀ diagnostic ∈ finding workspace settings tools package, diagnostic.package = package.name :=
  package_eq_of_verdict settings (verdict_eq_finding workspace settings hgraphs [] package)

/-- The audit after a successful build reports what is found about the packages that are planned. -/
theorem auditAfter_apply (hjobs : Settings.checkJobs settings.jobs = .ok ())
    {selected? : Option String} (hselected : ∀ name, selected? = some name → ¬ workspace.Lacks name)
    (result : BuildResult) (session : Session) :
    ∃ later, auditAfter workspace settings tools selected? result session = (.ok {
      result
      diagnostics := (workspace.planned settings.auditAll.isOn selected?).flatMap
        (finding workspace settings tools)
      audited := (workspace.planned settings.auditAll.isOn selected?).map (·.name) }, later) := by
  have hconfig {plan? : Option (Scope × List Package)}
      (hplan : auditPlan workspace settings.auditAll.isOn selected? = .ok plan?) :
      Action.ofConfig (auditPlan workspace settings.auditAll.isOn selected?) session =
        (.ok plan?, session) := by
    rw [hplan]
    rfl
  rw [auditAfter]
  -- Without packages to audit there is no plan, and the report has nothing to say about them.
  rcases workspace.exists_auditPlan_planned settings.auditAll.isOn hselected with
    ⟨hnone, hplan⟩ | ⟨scope, hplan⟩
  · rw [bind_of_ok (hconfig hplan), hnone]
    exact ⟨session, rfl⟩
  · rw [bind_of_ok (hconfig hplan)]
    obtain ⟨hsublist, hscope⟩ := auditPlan_eq_some workspace settings tools hplan
    obtain ⟨middle, hturn⟩ := exists_inTurn_auditPackage workspace settings tools _
      (fun package hpackage => hsublist.subset hpackage) (session.extend [.logged auditNotice])
      (verdicts_eq_findings workspace settings hgraphs _ _)
    obtain ⟨later, -, haudit⟩ :=
      audit_of_ok (AuditContext.checkWorkers_of_checkJobs hjobs) hscope hturn
    exact ⟨later, bind_of_ok haudit⟩

end Findings

variable {settings tools}

/-- A build whose pipeline has succeeded has come to its audit. -/
theorem exists_result_of_succeeded {options : BuildOptions} {session : Session}
    (h : (buildPipeline workspace settings tools options session).stage = .succeeded) :
    ∃ result middle, result.succeeded = true ∧
      runBuild workspace settings tools options session =
        auditAfter workspace settings tools options.selected? result middle := by
  rw [buildPipeline] at h
  rcases hprepare : prepare workspace settings options session with ⟨failure | globs, ready⟩
  · -- The build has not come to its pipeline, which is a fresh one.
    rw [hprepare] at h
    cases h
  · rw [hprepare] at h
    dsimp only at h
    rcases PipelineAction.run_fresh_cases tools (buildRequest settings globs) ready with
      ⟨-, result, later, hrun, hsettled, hresult⟩ | ⟨failure, later, -, hrun, hhalfway⟩
    · rw [hrun] at h
      obtain ⟨kept, hkept, hstage⟩ := hsettled.result
      rw [hresult] at hkept
      cases hkept
      -- The result says of the stage what the pipeline does.
      have hsucceeded : result.succeeded = true := by
        rw [BuildResult.succeeded, hstage, h]
        rfl
      have hbuild : buildOnce tools (buildRequest settings globs) ready =
          (.ok result, later.session) := by
        rw [buildOnce, hrun]
      refine ⟨result, later.session, hsucceeded, ?_⟩
      rw [runBuild, bind_of_ok hprepare, bind_of_ok hbuild, if_pos hsucceeded]
    -- A run that fails leaves a stage that is not terminal, unlike that of a success.
    · rw [hrun] at h
      rw [Stage.IsHalfway, h] at hhalfway
      exact absurd hhalfway.2 (by simp [Stage.isTerminal])

/-- The report about a successful build has the findings about the packages that are planned. -/
theorem runBuild_of_succeeded (hgraphs : tools.GraphsByCall)
    (hjobs : Settings.checkJobs settings.jobs = .ok ()) {options : BuildOptions}
    (hselected : ∀ name, options.selected? = some name → ¬ workspace.Lacks name)
    {session : Session}
    (h : (buildPipeline workspace settings tools options session).stage = .succeeded) :
    ∃ report later, runBuild workspace settings tools options session = (.ok report, later) ∧
      report.diagnostics = (workspace.planned settings.auditAll.isOn options.selected?).flatMap
        (finding workspace settings tools) ∧
      report.audited =
        (workspace.planned settings.auditAll.isOn options.selected?).map (·.name) := by
  obtain ⟨result, middle, -, hrun⟩ := exists_result_of_succeeded workspace h
  obtain ⟨later, haudit⟩ :=
    auditAfter_apply workspace settings hgraphs hjobs hselected result middle
  exact ⟨_, later, hrun.trans haudit, rfl, rfl⟩

/-- Selecting a package only filters the audit: of two successful builds, one of the workspace as a
whole and one of a selected package, the second reports the part of the first that is about this
package. -/
theorem runBuild_selected (hgraphs : tools.GraphsByCall)
    (hjobs : Settings.checkJobs settings.jobs = .ok ()) {package : Package}
    (hpackage : package ∈ workspace.packages) {name : String}
    (hname : canonicalName name = package.name) {full chosen : BuildOptions}
    (hfull : full.selected? = none) (hchosen : chosen.selected? = some name)
    {session session' : Session}
    (hbuilt : (buildPipeline workspace settings tools full session).stage = .succeeded)
    (hbuilt' : (buildPipeline workspace settings tools chosen session').stage = .succeeded) :
    ∃ whole part later later',
      runBuild workspace settings tools full session = (.ok whole, later) ∧
      runBuild workspace settings tools chosen session' = (.ok part, later') ∧
      part.audited = whole.audited.filter (· == package.name) ∧
      part.diagnostics = whole.diagnostics.filter (·.package == package.name) := by
  have hknown : ¬ workspace.Lacks name := fun hlacks => hlacks package hpackage hname.symm
  obtain ⟨whole, later, hwhole, hdiagnostics, haudited⟩ :=
    runBuild_of_succeeded workspace hgraphs hjobs
      (fun other hother => by rw [hfull] at hother; cases hother) hbuilt
  obtain ⟨part, later', hpart, hdiagnostics', haudited'⟩ :=
    runBuild_of_succeeded workspace hgraphs hjobs
      (fun other hother => by rw [hchosen] at hother; cases hother; exact hknown) hbuilt'
  -- The plan for the selected package is that for the whole workspace, filtered by the name.
  have hplanned : workspace.planned settings.auditAll.isOn chosen.selected? =
      (workspace.planned settings.auditAll.isOn full.selected?).filter
        (·.name == package.name) := by
    rw [hfull, hchosen, ← hname]
    rfl
  refine ⟨whole, part, later, later', hwhole, hpart, ?_, ?_⟩
  · rw [haudited', haudited, hplanned, List.filter_map]
    rfl
  · rw [hdiagnostics', hdiagnostics, hplanned, filter_flatMap_eq]
    exact fun package _ => package_eq_of_mem_finding workspace settings hgraphs package

/-- Two packages, each of which declares to depend on an external one. -/
def Workspace.twin : Workspace where
  packages := [app, .make "lib" "lib" ["lib-b"] false]
  dependencies := [("lib-a", ".pedant/p/lib-a"), ("lib-b", ".pedant/p/lib-b")]
  root := .here
  names_nodup := by decide +kernel

/-- Tools that build everything and find no module. -/
def Tools.unseeing : Tools where
  compile _ _ _ := { records := [], answer := .ok () }
  graph _ _ _ := { records := [], answer := .ok (.ofModules []) }
  backend _ _ _ := { records := [], answer := .ok () }

theorem Tools.graphsByCall_unseeing : Tools.unseeing.GraphsByCall where
  alike _ _ _ _ := rfl
  fault _ _ _ _ h := by cases h

/-- A selected package may be spelled in another way; what is left of the two findings is the one
about it. -/
theorem runBuild_selected_twin :
    ∃ whole part later later',
      runBuild .twin { auditAll := .bool true } .unseeing {} .bare = (.ok whole, later) ∧
      runBuild .twin { auditAll := .bool true } .unseeing
        { selected? := some " App ", dependenciesOnly := true } .bare = (.ok part, later') ∧
      whole.audited = ["app", "lib"] ∧
      whole.diagnostics = [.unused "app" ["lib-a"], .unused "lib" ["lib-b"]] ∧
      part.audited = ["app"] ∧ part.diagnostics = [.unused "app" ["lib-a"]] := by
  have hmade : Settings.ofTable [("pedantic_packages", .bool true)] none =
      .ok { auditAll := .bool true } := rfl
  have hname : canonicalName " App " = Workspace.app.name := by decide +kernel
  have hbuilt : (buildPipeline .twin { auditAll := .bool true } .unseeing {} .bare).stage =
      .succeeded := by
    decide +kernel
  have hbuilt' : (buildPipeline .twin { auditAll := .bool true } .unseeing
      { selected? := some " App ", dependenciesOnly := true } .bare).stage = .succeeded := by
    decide +kernel
  obtain ⟨whole, part, later, later', hwhole, hpart, haudited, hdiagnostics⟩ :=
    runBuild_selected .twin Tools.graphsByCall_unseeing (Settings.checkJobs_of_ofTable hmade)
      (.head _) hname rfl rfl hbuilt hbuilt'
  have hreport : (runBuild .twin { auditAll := .bool true } .unseeing {} .bare).1.toOption.map
      (fun report => (report.audited, report.diagnostics)) =
        some (["app", "lib"], [.unused "app" ["lib-a"], .unused "lib" ["lib-b"]]) := by
    decide +kernel
  rw [hwhole] at hreport
  obtain ⟨hall, hfound⟩ := Prod.mk.inj (Option.some.inj hreport)
  refine ⟨whole, part, later, later', hwhole, hpart, hall, hfound, ?_, ?_⟩
  · rw [haudited, hall]
    decide +kernel
  · rw [hdiagnostics, hfound]
    decide +kernel

end BuildAudit
