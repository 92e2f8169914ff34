import BuildAudit.Proofs.Build.Report
import BuildAudit.Proofs.Graph.Decode
import BuildAudit.Proofs.Json.Reader
import BuildAudit.Tools.Compiler

/-!
# Exactness of an audit

The compiler prints an object of modules when it is asked for the import graph of a package. If that
object is well formed, the diagnostics about the package are exact in what the object says
(`exact_of_printed`): every import between packages is counted and none is made up on the way from
the octets of the output to the report.
-/

namespace BuildAudit

/-- The answer to a call whose process ends well is the graph that is read from its output. -/
theorem Toolchain.answer_graphReply (toolchain : Toolchain) {output complaint : List UInt8}
    {text : String} {value : JsonValue} {graph : ImportGraph}
    (hdecode : Text.Utf8.decode output = .ok text) (hread : Json.read text = .ok value)
    (hgraph : (ImportGraph.ofValue toolchain.ownership value).2 = .ok graph) :
    (toolchain.graphReply (.exited 0 output complaint)).answer = .ok graph := by
  rw [graphReply, if_pos rfl, hdecode]
  dsimp only
  rw [ImportGraph.ofOutput, hread]
  dsimp only
  rw [hgraph]
  rfl

/-- The process of the call for the import graph of an audited package ended well and printed an
object. -/
def BuildReport.Printed (report : BuildReport) (toolchain : Toolchain) (processes : Processes)
    (later : Session) (package : String) (entries : JsonObject) : Prop :=
  ∃ past call output complaint text, report.AskedFor later package past call ∧
    toolchain.outcomeOf processes past call = .exited 0 output complaint ∧
    Text.Utf8.decode output = .ok text ∧ Json.read text = .ok (.table entries)

variable (workspace : Workspace) (settings : Settings) (options : BuildOptions)

/-- The diagnostics about an audited package are exact in what the compiler printed about it. -/
theorem exact_of_printed {toolchain : Toolchain} {processes : Processes}
    (howners : toolchain.ownership = workspace.ownership) {report : BuildReport}
    {session later : Session}
    (h : runBuild workspace settings (toolchain.tools processes) options session =
      (.ok report, later))
    {package : Package} (hpackage : package ∈ workspace.packages)
    (haudited : package.name ∈ report.audited) {entries : JsonObject}
    (hprinted : report.Printed toolchain processes later package.name entries)
    (hentries : IsModuleListing entries) :
    (listing workspace.ownership entries).Exact package settings.installCommand
      (report.diagnostics.filter (·.package == package.name)) := by
  obtain ⟨past, found, -, hasked, hverdict, hfound⟩ :=
    exists_verdict workspace settings (toolchain.tools processes) options h hpackage haudited
  obtain ⟨past', call, output, complaint, text, hcall, hexited, hdecode, hread⟩ := hprinted
  obtain ⟨rfl, rfl⟩ := (hasked past' call).1 hcall
  obtain ⟨graph, hgraph, hrepresents⟩ :=
    ImportGraph.exists_ofValue toolchain.ownership (Json.nodup_keys_of_read hread) hentries
  have hanswer : graphAnswer workspace settings (toolchain.tools processes) past' package =
      .ok graph := by
    rw [graphCall] at hexited
    rw [graphAnswer, Toolchain.tools]
    dsimp only
    rw [hexited]
    exact toolchain.answer_graphReply hdecode hread hgraph
  -- The verdict is about this graph, which represents what the object says.
  rw [hanswer] at hverdict
  rw [hfound, ← howners, ← Except.ok.inj hverdict]
  exact graph.exact_diagnostics hrepresents package settings.installCommand

/-- The package `app` with two external packages, of which it declares one. -/
def Workspace.paired : Workspace :=
  { Workspace.sole with
    dependencies := [("lib-a", ".pedant/p/lib-a"), ("lib-b", ".pedant/p/lib-b")] }

/-- An object in which a module of `app` imports from the other external package. The names of both
modules are halves of characters, which only their codes tell apart. -/
def crossing : String :=
  "\x7b\"\\ud800\": \x7b\"path\": \"app/src/App.purs\", \"depends\": [\"\\ud801\"]\x7d, " ++
    "\"\\ud801\": \x7b\"path\": \".pedant/p/lib-b/src/LibB.purs\"\x7d\x7d"

/-- The owners in that workspace, deeper directories first. -/
def Ownership.paired : Ownership where
  roots := [
    (sourcePath ".pedant/p/lib-a/src", "lib-a"),
    (sourcePath ".pedant/p/lib-b/src", "lib-b"),
    (sourcePath "app/src", "app")]
  roots_nodup := by decide +kernel
  roots_descending := by decide +kernel
  owners_canonical := by decide +kernel

theorem ownership_paired : Workspace.paired.ownership = .paired := by
  -- The directories are given in order already, so that sorting them need not be evaluated.
  refine Ownership.eq_of_roots_eq ?_
  rw [Workspace.ownership, Ownership.ofPairs]
  refine (List.mergeSort_of_pairwise ?_).trans ?_ <;> decide +kernel

/-- A compiler that is called by its own name. -/
def Toolchain.plain : Toolchain where
  compiler := "purs"
  ownership := .paired

/-- Processes that end well, of which the one for the import graph prints the text. -/
def ProcessScript.printing : ProcessScript where
  runs := []
  captures := [.exited 0 (Text.Utf8.encode crossing) []]

theorem exists_read_crossing :
    ∃ entries, Json.read crossing = .ok (.table entries) ∧ IsModuleListing entries := by
  have hlisted : ((Json.read crossing).toOption.bind Value.asTable?).any
      (IsModuleListing ·) = true := by
    decide +kernel
  rcases hread : Json.read crossing with refusal | value
  · rw [hread] at hlisted
    cases hlisted
  · rw [hread] at hlisted
    cases value <;> try cases hlisted
    exact ⟨_, rfl, of_decide_eq_true hlisted⟩

/-- The diagnostics about `app` are exact in the object that is printed about it. -/
theorem exact_of_printed_crossing :
    ∃ report later entries,
      runBuild .paired { auditAll := .bool true }
          (Toolchain.plain.tools ProcessScript.printing.processes) { writeInfo := false } .bare =
        (.ok report, later) ∧
      report.diagnostics.length = 2 ∧
      Json.read crossing = .ok (.table entries) ∧
      (listing Workspace.paired.ownership entries).Exact Workspace.app "spago install"
        (report.diagnostics.filter (·.package == Workspace.app.name)) := by
  have hended : (runBuild .paired { auditAll := .bool true }
      (Toolchain.plain.tools ProcessScript.printing.processes) { writeInfo := false }
      .bare).map (·.toOption.map fun report => (report.audited, report.diagnostics.length))
        (·.calls) =
      (some ([Workspace.app.name], 2),
        [.compile (Workspace.paired.auditGlobs Workspace.app) []] ++
          .graph (Workspace.paired.auditGlobs Workspace.app) [] :: []) := by
    decide +kernel
  obtain ⟨entries, hread, hentries⟩ := exists_read_crossing
  rcases hrun : runBuild .paired { auditAll := .bool true }
      (Toolchain.plain.tools ProcessScript.printing.processes) { writeInfo := false } .bare with
    ⟨failure | report, later⟩
  · rw [hrun] at hended
    cases (Prod.mk.inj hended).1
  · rw [hrun] at hended
    obtain ⟨hreport, hcalls⟩ := Prod.mk.inj hended
    obtain ⟨haudited, hlength⟩ := Prod.mk.inj (Option.some.inj hreport)
    refine ⟨report, later, entries, rfl, hlength, hread, ?_⟩
    refine exact_of_printed .paired { auditAll := .bool true } { writeInfo := false }
      ownership_paired.symm hrun (.head _) ?_ ?_ hentries
    · rw [haudited]
      exact .head _
    · exact ⟨[.compile (Workspace.paired.auditGlobs Workspace.app) []],
        .graph (Workspace.paired.auditGlobs Workspace.app) [], Text.Utf8.encode crossing, [],
        crossing, ⟨[], [], [], haudited, hcalls, rfl⟩, rfl, by decide +kernel, hread⟩

end BuildAudit
