import BuildAudit.Proofs.Audit.Run
import BuildAudit.Proofs.Build.Info
import BuildAudit.Proofs.Build.Pipeline
import BuildAudit.Proofs.Usage

/-!
# What a report says

The calls for import graphs are the last ones of a build, one for each audited package in the order
of the report, so the report tells which call belongs to which package (`BuildReport.AskedFor`). The
diagnostics about a package are its verdict, which is about the answer to its call
(`exists_verdict`).
-/

namespace BuildAudit

variable (workspace : Workspace) (settings : Settings) (tools : Tools) (options : BuildOptions)

/-- Making a build ready calls no tool. -/
theorem keepsCalls_prepare : KeepsCalls (prepare workspace settings options) := by
  have hconfig {α : Type} (result : Except ConfigFault α) : KeepsCalls (Action.ofConfig result) :=
    keepsCalls_ofExcept _
  have hselect : KeepsCalls
      (selectGlobs workspace options.selected? options.dependenciesOnly) := by
    rw [selectGlobs]
    split
    · exact (keepsCalls_log _ _).bind fun _ => hconfig _
    · exact hconfig _
  -- What follows once it is known that no package is unknown.
  have hinform : KeepsCalls (do
      if options.writeInfo then
        if ← Action.ofExcept (flagsAccepted settings) then
          let _ ← writeBuildInfo workspace.root workspace.packageNames
      selectGlobs workspace options.selected? options.dependenciesOnly) := by
    split
    · refine (keepsCalls_ofExcept _).bind fun accepted => ?_
      cases accepted with
      | true => exact (keepsCalls_writeBuildInfo _ _).bind fun _ => hselect
      | false => exact hselect
    · exact hselect
  rw [prepare]
  split
  · exact (hconfig _).bind fun _ => hinform
  · exact hinform

/-- Running a pipeline of its own only makes calls. -/
theorem onlyCalls_buildOnce (request : BuildRequest) :
    OnlyCalls id (buildOnce tools request) := fun session =>
  PipelineAction.onlyCalls_run tools request { pipeline := .fresh, session }

/-- A report is about packages of the workspace, which were asked for one after the other once
everything else was done, and it consists of their verdicts. -/
theorem runBuild_eq_ok {report : BuildReport} {session later : Session}
    (h : runBuild workspace settings tools options session = (.ok report, later)) :
    ∃ (packages : List Package) (found : List (List Diagnostic)) (past : List ToolCall),
      packages.Sublist workspace.packages ∧ session.calls <+: past ∧
      later.calls = past ++ packages.map (graphCall workspace settings) ∧
      verdicts workspace settings tools past packages = found.map .ok ∧
      report.diagnostics = found.flatten ∧ report.audited = packages.map (·.name) := by
  rw [runBuild] at h
  obtain ⟨globs, ready, hprepare, h⟩ := bind_eq_ok.1 h
  obtain ⟨result, middle, hbuild, h⟩ := bind_eq_ok.1 h
  have hready := keepsCalls_prepare workspace settings options session
  rw [hprepare] at hready
  obtain ⟨made, hmade⟩ := onlyCalls_buildOnce tools (buildRequest settings globs) ready
  rw [hbuild] at hmade
  -- Before the audit only the calls of the pipeline are added, so they are what the audit comes
  -- after.
  have hmiddle : middle.calls = session.calls ++ made := by
    rw [← hready]
    exact hmade.calls_eq
  have hprefix : session.calls <+: middle.calls := ⟨made, hmiddle.symm⟩
  split at h
  · obtain ⟨packages, found, hsublist, hcalls, hverdicts, rfl⟩ :=
      auditAfter_eq_ok workspace settings tools h
    exact ⟨packages, found, middle.calls, hsublist, hprefix, hcalls.calls_eq, hverdicts, rfl, rfl⟩
  · cases h
    exact ⟨[], [], _, List.nil_sublist _, hprefix, (List.append_nil _).symm, rfl, rfl, rfl⟩

/-- The call for the import graph of an audited package: the calls of a session are `past`, then
this call, and then one call for each package that is audited after it. -/
def BuildReport.AskedFor (report : BuildReport) (later : Session) (package : String)
    (past : List ToolCall) (call : ToolCall) : Prop :=
  ∃ before after rest, report.audited = before ++ package :: after ∧
    later.calls = past ++ call :: rest ∧ rest.length = after.length

/-- The calls for the packages of a report, in their order, are the last ones of a session, so each
package has its own. -/
theorem askedFor_iff {report : BuildReport} {later : Session} {start past : List ToolCall}
    {call : ToolCall} {before after : List Package} {package : Package}
    (hnodup : ((before ++ package :: after).map (·.name)).Nodup)
    (haudited : report.audited = (before ++ package :: after).map (·.name))
    (hcalls : later.calls =
      start ++ (before ++ package :: after).map (graphCall workspace settings)) :
    report.AskedFor later package.name past call ↔
      past = start ++ before.map (graphCall workspace settings) ∧
        call = graphCall workspace settings package := by
  rw [List.map_append, List.map_cons] at hnodup haudited hcalls
  rw [← List.append_assoc] at hcalls
  have hfresh := List.nodup_cons.1 (List.nodup_middle.1 hnodup)
  rw [List.mem_append, not_or] at hfresh
  constructor
  -- A name stands in the report once, so there is one way to split it; the calls are then split by
  -- counting from the end.
  · rintro ⟨before', after', rest, hsplit, hlater, hlength⟩
    rw [haudited] at hsplit
    have hafter := ((List.append_cons_inj_of_notMem hfresh.1.1 hfresh.1.2).1 hsplit).2.2
    have hsame : (call :: rest).length =
        (graphCall workspace settings package ::
          after.map (graphCall workspace settings)).length := by
      rw [List.length_cons, hlength, ← hafter, List.length_cons, List.length_map, List.length_map]
    rw [hcalls] at hlater
    obtain ⟨hpast, hrest⟩ := List.append_inj' hlater hsame.symm
    exact ⟨hpast.symm, (List.cons.inj hrest).1.symm⟩
  · rintro ⟨rfl, rfl⟩
    exact ⟨_, _, _, haudited, hcalls, by rw [List.length_map, List.length_map]⟩

/-- A verdict on a package is about that package. -/
theorem package_eq_of_verdict {package : Package} {answer : Except Failure ImportGraph}
    {found : List Diagnostic} (h : verdict settings package answer = .ok found) :
    ∀ diagnostic ∈ found, diagnostic.package = package.name := by
  unfold verdict at h
  split at h
  · next graph =>
    cases h
    exact (graph.exact_diagnostics graph.represents_view package _).package_eq
  · cases h
    exact fun _ h => absurd h List.not_mem_nil
  · cases h

/-- Verdicts on other packages have no diagnostic about a package. -/
theorem filter_flatten_eq_nil {past : List ToolCall} {list : List Package}
    {found : List (List Diagnostic)}
    (h : verdicts workspace settings tools past list = found.map .ok) {name : String}
    (hother : ∀ other ∈ list, other.name ≠ name) :
    found.flatten.filter (·.package == name) = [] := by
  induction list generalizing past found with
  | nil =>
    rw [verdicts, eq_comm, List.map_eq_nil_iff] at h
    rw [h]
    rfl
  | cons package rest ih =>
    rw [verdicts, eq_comm, List.map_eq_cons_iff] at h
    obtain ⟨first, others, rfl, hfirst, hothers⟩ := h
    obtain ⟨hpackage, hrest⟩ := List.forall_mem_cons.1 hother
    -- The diagnostics of a verdict carry the name of their package, which is another one.
    have hnone : first.filter (·.package == name) = [] := by
      refine filter_package_eq_nil fun diagnostic hmem => ?_
      rw [package_eq_of_verdict settings hfirst.symm diagnostic hmem]
      exact hpackage
    rw [List.flatten_cons, List.filter_append, hnone, ih hothers.symm hrest, List.append_nil]

/-- A package of a report was asked for by one call, and the diagnostics about it are the verdict on
the answer to this call. -/
theorem exists_verdict {report : BuildReport} {session later : Session}
    (h : runBuild workspace settings tools options session = (.ok report, later))
    {package : Package} (hpackage : package ∈ workspace.packages)
    (haudited : package.name ∈ report.audited) :
    ∃ past found, session.calls <+: past ∧
      (∀ past' call, report.AskedFor later package.name past' call ↔
        past' = past ∧ call = graphCall workspace settings package) ∧
      verdict settings package (graphAnswer workspace settings tools past package) = .ok found ∧
      report.diagnostics.filter (·.package == package.name) = found := by
  obtain ⟨packages, found, start, hsublist, hprefix, hcalls, hverdicts, hdiagnostics, hnames⟩ :=
    runBuild_eq_ok workspace settings tools options h
  rw [hnames, List.mem_map] at haudited
  obtain ⟨other, hother, hsame⟩ := haudited
  obtain rfl := workspace.eq_of_name_eq (hsublist.subset hother) hpackage hsame
  obtain ⟨before, after, rfl⟩ := List.append_of_mem hother
  -- The diagnostics of a report are split as its packages are, and names tell the packages apart.
  have hnodup : ((before ++ other :: after).map (·.name)).Nodup :=
    workspace.names_nodup.sublist (hsublist.map _)
  have hfresh := hnodup
  rw [List.map_append, List.map_cons, List.nodup_middle, List.nodup_cons, List.mem_append,
    not_or] at hfresh
  rw [verdicts_append, eq_comm, List.map_eq_append_iff] at hverdicts
  obtain ⟨foundBefore, foundFrom, rfl, hbefore, hfrom⟩ := hverdicts
  rw [verdicts, List.map_eq_cons_iff] at hfrom
  obtain ⟨found, foundAfter, rfl, hfound, hafter⟩ := hfrom
  refine ⟨start ++ before.map (graphCall workspace settings), found,
    hprefix.trans (List.prefix_append _ _), fun past' call => ?_, hfound.symm, ?_⟩
  · exact askedFor_iff workspace settings hnodup hnames hcalls
  · have hnone : ∀ list : List Package, other.name ∉ list.map (·.name) →
        ∀ package ∈ list, package.name ≠ other.name := by
      rintro list hnot package hmem heq
      exact hnot (List.mem_map.2 ⟨package, hmem, heq⟩)
    have hall : found.filter (·.package == other.name) = found :=
      filter_package_eq_self (package_eq_of_verdict settings hfound.symm)
    rw [hdiagnostics, List.flatten_append, List.flatten_cons, List.filter_append,
      List.filter_append, hall,
      filter_flatten_eq_nil workspace settings tools hbefore.symm (hnone before hfresh.1.1),
      filter_flatten_eq_nil workspace settings tools hafter.symm (hnone after hfresh.1.2),
      List.append_nil, List.nil_append]

end BuildAudit
