import BuildAudit.Proofs.Build.Report
import BuildAudit.Tools.Compiler

/-!
# Clean packages

A package of a report is clean if no diagnostic is about it. For a clean package whose import graph
was given this is earned: the package uses just what it declares. A package whose import graph was
not given is left out of the audit without a diagnostic, so it looks clean as well, and its name
stands in the report all the same.
-/

namespace BuildAudit

variable (workspace : Workspace) (settings : Settings) (tools : Tools) (options : BuildOptions)

namespace BuildReport

/-- What the tool answered to the call for the import graph of an audited package, in a build that
led from one session to a later one. -/
def Answered (report : BuildReport) (session later : Session) (package : Package)
    (answer : Except Failure ImportGraph) : Prop :=
  ∃ past globs arguments, session.calls <+: past ∧
    report.AskedFor later package.name past (.graph globs arguments) ∧
    (tools.graph past globs arguments).answer = answer

/-- The import graph of an audited package could not be had. -/
def GraphFailed (report : BuildReport) (session later : Session) (package : Package) : Prop :=
  ∃ fault, report.Answered tools session later package (.error (.fault (.graph fault)))

/-- A clean verdict is earned: a package without diagnostics has an import graph in which it uses
exactly the packages that it declares, and nothing is in order while the graph of a package is
missing. -/
structure CleanIsEarned (report : BuildReport) (session later : Session) : Prop where
  /-- A clean package uses exactly the packages that it declares. -/
  earned : ∀ package ∈ workspace.packages, package.name ∈ report.audited →
    (∀ diagnostic ∈ report.diagnostics, diagnostic.package ≠ package.name) →
      ∃ graph, report.Answered tools session later package (.ok graph) ∧
        ∀ name, graph.view.Uses package.name name ↔ name ∈ package.dependencies
  /-- A report that is in order has the import graphs of all its packages. -/
  ok : report.isOk = true →
    ∀ package ∈ workspace.packages, package.name ∈ report.audited →
      ¬ report.GraphFailed tools session later package

end BuildReport

/-- The answer about an audited package is the one that its verdict is about, and it is a graph or a
fault of the graph. -/
theorem exists_answer {report : BuildReport} {session later : Session}
    (h : runBuild workspace settings tools options session = (.ok report, later))
    {package : Package} (hpackage : package ∈ workspace.packages)
    (haudited : package.name ∈ report.audited) :
    ∃ answer, (∀ other, report.Answered tools session later package other ↔ other = answer) ∧
      ((∃ graph, answer = .ok graph ∧
          report.diagnostics.filter (·.package == package.name) =
            (graph.usage package.name package.dependencies).diagnostics package.name
              settings.installCommand) ∨
        ∃ fault, answer = .error (.fault (.graph fault)) ∧
          report.diagnostics.filter (·.package == package.name) = []) := by
  obtain ⟨past, found, hprefix, hasked, hverdict, hfound⟩ :=
    exists_verdict workspace settings tools options h hpackage haudited
  -- The call for the package is the only one that was made for it, so it has one answer.
  refine ⟨graphAnswer workspace settings tools past package, fun other => ?_, ?_⟩
  · constructor
    · rintro ⟨past', globs, arguments, -, hcall, rfl⟩
      obtain ⟨rfl, hcall⟩ := (hasked _ _).1 hcall
      cases hcall
      rfl
    · rintro rfl
      exact ⟨past, _, _, hprefix, (hasked _ _).2 ⟨rfl, rfl⟩, rfl⟩
  · rw [hfound]
    generalize graphAnswer workspace settings tools past package = answer at hverdict
    unfold verdict at hverdict
    split at hverdict
    · next graph => exact Or.inl ⟨graph, rfl, (Except.ok.inj hverdict).symm⟩
    · next fault => exact Or.inr ⟨fault, rfl, (Except.ok.inj hverdict).symm⟩
    · cases hverdict

/-- The verdicts of a report are earned just if no import graph is missing. -/
theorem cleanIsEarned_iff {report : BuildReport} {session later : Session}
    (h : runBuild workspace settings tools options session = (.ok report, later)) :
    report.CleanIsEarned workspace tools session later ↔
      ∀ package ∈ workspace.packages, package.name ∈ report.audited →
        ¬ report.GraphFailed tools session later package := by
  have hclean (package : Package) :
      (∀ diagnostic ∈ report.diagnostics, diagnostic.package ≠ package.name) ↔
        report.diagnostics.filter (·.package == package.name) = [] := by
    rw [List.filter_eq_nil_iff]
    simp only [beq_iff_eq, ne_eq]
  constructor
  -- A package whose graph failed has no diagnostics, so it is clean and would need a graph.
  · rintro hearned package hpackage haudited ⟨fault, hfailed⟩
    obtain ⟨answer, hanswer, hcases⟩ :=
      exists_answer workspace settings tools options h hpackage haudited
    obtain rfl := (hanswer _).1 hfailed
    rcases hcases with ⟨graph, hgraph, -⟩ | ⟨_, -, hnone⟩
    · cases hgraph
    · obtain ⟨graph, hgraph, -⟩ :=
        hearned.earned package hpackage haudited ((hclean package).2 hnone)
      cases (hanswer _).1 hgraph
  · refine fun hgraphs => ⟨fun package hpackage haudited hnone => ?_, fun _ => hgraphs⟩
    obtain ⟨answer, hanswer, hcases⟩ :=
      exists_answer workspace settings tools options h hpackage haudited
    rcases hcases with ⟨graph, rfl, hfound⟩ | ⟨fault, rfl, -⟩
    · refine ⟨graph, (hanswer _).2 rfl, ?_⟩
      rw [← (graph.exact_diagnostics graph.represents_view package _).eq_nil_iff, ← hfound]
      exact (hclean package).1 hnone
    · exact absurd ⟨fault, (hanswer _).2 rfl⟩ (hgraphs package hpackage haudited)

/-- Tools that build everything and give an import graph in which `app` uses `lib-a`. -/
def Tools.linked : Tools where
  compile _ _ _ := { records := [], answer := .ok () }
  graph _ _ _ := {
    records := []
    answer := .ok (.ofModules [
      { name := "App", owner := "app", imports := ["Lib"] },
      { name := "Lib", owner := "lib-a", imports := [] }]) }
  backend _ _ _ := { records := [], answer := .ok () }

/-- With an import graph the verdict on the only package is earned. -/
theorem cleanIsEarned_iff_linked :
    ∃ report later,
      runBuild .sole { auditAll := .bool true } .linked {} .bare = (.ok report, later) ∧
        (report.CleanIsEarned .sole .linked .bare later ↔
          ∀ package ∈ Workspace.sole.packages, package.name ∈ report.audited →
            ¬ report.GraphFailed .linked .bare later package) := by
  have hok : (runBuild .sole { auditAll := .bool true } .linked {} .bare).1.isOk = true := by
    decide +kernel
  rcases hrun : runBuild .sole { auditAll := .bool true } .linked {} .bare with
    ⟨failure | report, later⟩
  · rw [hrun] at hok
    cases hok
  · exact ⟨report, later, rfl, cleanIsEarned_iff .sole _ .linked {} hrun⟩

/-- Tools that run as processes of which the one for the import graph fails. -/
def Tools.refusing : Tools :=
  Toolchain.tools { compiler := "purs", ownership := Workspace.sole.ownership }
    (ProcessScript.processes {
      runs := []
      captures := [.exited 1 [] (Text.Utf8.encode "no such flag")] })

/-- A build whose call for the import graph fails is reported to be in order, with the package
among those that have been audited. -/
theorem not_cleanIsEarned_refusing :
    ∃ report later,
      runBuild .sole { auditAll := .bool true } .refusing { writeInfo := false } .bare =
        (.ok report, later) ∧
      report.isOk = true ∧ report.audited = ["app"] ∧
      ¬ report.CleanIsEarned .sole .refusing .bare later := by
  have hrun : runBuild .sole { auditAll := .bool true } .refusing { writeInfo := false } .bare =
      (.ok { result := { stage := .succeeded, fault? := none }, audited := ["app"] },
        (runBuild .sole { auditAll := .bool true } .refusing { writeInfo := false } .bare).2) :=
    Prod.ext rfl rfl
  refine ⟨_, _, hrun, rfl, rfl, fun hearned => ?_⟩
  have hcalls :
      (runBuild .sole { auditAll := .bool true } .refusing { writeInfo := false } .bare).2.calls =
        [.compile (Workspace.sole.auditGlobs Workspace.app) []] ++
          .graph (Workspace.sole.auditGlobs Workspace.app) [] :: [] := by
    decide +kernel
  have hname : Workspace.app.name = "app" := by decide +kernel
  refine hearned.ok rfl Workspace.app (.head _) (by rw [hname]; exact .head _)
    ⟨_, _, _, [], List.nil_prefix, ⟨[], [], [], by rw [hname]; rfl, hcalls, rfl⟩, rfl⟩

end BuildAudit
