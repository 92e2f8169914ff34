import BuildAudit.Proofs.Audit.Exact
import BuildAudit.Proofs.Audit.Run
import BuildAudit.Proofs.Graph.Reading
import BuildAudit.Proofs.Text.Utf8

/-!
# Requests for an import graph

A process that is asked for an import graph may end with any code and write any octets, or not run
at all. A request gives a graph just if the process ends well and prints, in well-formed octets, an
object without malformed entries; in all other cases it fails with a fault of the graph, whichever
layer refuses (`answersGraphRequest`). Such a fault leaves out the package that the request was made
for, and nothing else.

Two ways to fail are not faults of the graph: the directory of the process may be no directory,
which says nothing about a process, and a text may go beyond what can be read at all.
-/

namespace BuildAudit

namespace ProcessOutcome

/-- The process ended well and printed a text. -/
def Prints (outcome : ProcessOutcome) (text : String) : Prop :=
  ∃ complaint, outcome = .exited 0 (Text.Utf8.encode text) complaint

/-- The process ended well and printed an object without malformed entries. -/
def PrintsModules (outcome : ProcessOutcome) (entries : JsonObject) : Prop :=
  ∃ text, outcome.Prints text ∧ Json.read text = .ok (.table entries) ∧
    ∀ entry ∈ entries, ¬ IsMalformed entry.2

/-- What the process prints does not go beyond what can be read. -/
def IsWithinBounds (outcome : ProcessOutcome) : Prop :=
  ∀ text, outcome.Prints text → ∀ excess, Json.read text ≠ .error (.excess excess)

end ProcessOutcome

namespace Toolchain

variable (toolchain : Toolchain)

/-- How a request for an import graph ends: with the graph that is read from what the process
printed, with a fault of the graph, or in one of two ways that are no such fault. -/
inductive GraphReplyEnds (outcome : ProcessOutcome) : Except Failure ImportGraph → Prop where
  /-- The graph is read from what the process printed. -/
  | read {text : String} {value : JsonValue} {graph : ImportGraph} (hprints : outcome.Prints text)
    (hread : Json.read text = .ok value)
    (hgraph : (ImportGraph.ofValue toolchain.ownership value).2 = .ok graph) :
    GraphReplyEnds outcome (.ok graph)
  /-- There is no graph for some reason. -/
  | fault (cause : GraphCause) : GraphReplyEnds outcome (.error (graphFailure cause))
  /-- What the process printed goes beyond what can be read. -/
  | excess {text : String} {excess : Json.Excess} (hprints : outcome.Prints text)
    (hread : Json.read text = .error (.excess excess)) :
    GraphReplyEnds outcome (.error (.excess excess))
  /-- The directory of the process is no directory. -/
  | noDirectory (hdirectory : outcome = .noDirectory) :
    GraphReplyEnds outcome (.error .processDirectory)

/-- What comes of a text that the process printed. -/
theorem graphReplyEnds_of_prints {outcome : ProcessOutcome} {text : String}
    (h : outcome.Prints text) :
    toolchain.GraphReplyEnds outcome
      ((ImportGraph.ofOutput toolchain.ownership text).2.mapError outputFailure) := by
  rw [ImportGraph.ofOutput]
  rcases hread : Json.read text with refusal | value
  · cases refusal with
    | fault fault => exact .fault (.notJson text fault)
    | excess excess => exact .excess h hread
  · dsimp only
    rcases hgraph : ImportGraph.ofValue toolchain.ownership value with ⟨records, cause | graph⟩
    · exact .fault cause
    · exact .read h hread (congrArg Prod.snd hgraph)

/-- A request ends in one of these ways, however its process ends. -/
theorem graphReplyEnds (outcome : ProcessOutcome) :
    toolchain.GraphReplyEnds outcome (toolchain.graphReply outcome).answer := by
  cases outcome with
  | exited code output complaint =>
    rw [graphReply]
    by_cases hcode : code = 0
    · rw [if_pos hcode]
      rcases hdecode : Text.Utf8.decode output with fault | text
      · exact .fault _
      · refine toolchain.graphReplyEnds_of_prints ⟨complaint, ?_⟩
        rw [hcode, Text.Utf8.decode_eq_ok_iff.1 hdecode]
    · rw [if_neg hcode]
      exact .fault _
  | notStarted text => exact .fault _
  | timedOut => exact .fault _
  | noDirectory => exact .noDirectory rfl

variable (processes : Processes) (past : List ToolCall) (globs arguments : List String)

/-- How the process of a request for an import graph ends. -/
def requestOutcome : ProcessOutcome :=
  toolchain.outcomeOf processes past (.graph globs arguments)

/-- The answer to a request for an import graph. -/
def requested : Except Failure ImportGraph :=
  ((toolchain.tools processes).graph past globs arguments).answer

/-- What a request for an import graph comes to. -/
structure AnswersGraphRequest : Prop where
  /-- There is a graph just if the process ended well and printed, in well-formed octets, an object
  without malformed entries. -/
  graph_iff : (∃ graph, toolchain.requested processes past globs arguments = .ok graph) ↔
    ∃ entries, (toolchain.requestOutcome processes past globs arguments).PrintsModules entries
  /-- A graph is what the object says. It has passed the check that it is made with, so both ends of
  its imports have owners. -/
  checked : ∀ graph, toolchain.requested processes past globs arguments = .ok graph →
    ∃ entries modules,
      (toolchain.requestOutcome processes past globs arguments).PrintsModules entries ∧
      (readModules toolchain.ownership entries).2 = .ok modules ∧
      ImportGraph.ofEdges (ownersOf modules) (ImportGraph.edgesOf (importsAmong modules)) =
        .ok graph ∧
      graph.IsReadFrom toolchain.ownership entries ∧
      ∀ edge ∈ graph.edges, (graph.ownerOf? edge.source).isSome = true ∧
        (graph.ownerOf? edge.target).isSome = true
  /-- Without a graph there is a fault of the graph. -/
  fault : ∀ failure, toolchain.requested processes past globs arguments = .error failure →
    ∃ cause, failure = graphFailure cause
  /-- The audit of the package that the request is made for ends, and finds nothing without a
  graph. -/
  audited : ∀ (workspace : Workspace) (settings : Settings) (packages : List Package)
    (package : Package) (session : Session), package ∈ workspace.packages →
    graphCall workspace settings package = .graph globs arguments → session.calls = past →
      ∃ found later,
        (auditContext workspace settings (toolchain.tools processes) packages).auditPackage package
          session = (.ok found, later) ∧
        ((∃ failure, toolchain.requested processes past globs arguments = .error failure) →
          found = [])

/-- A graph is read from an object without malformed entries. -/
theorem exists_printsModules {outcome : ProcessOutcome} {graph : ImportGraph}
    (h : toolchain.GraphReplyEnds outcome (.ok graph)) :
    ∃ entries modules, outcome.PrintsModules entries ∧
      (readModules toolchain.ownership entries).2 = .ok modules ∧
      ImportGraph.ofEdges (ownersOf modules) (ImportGraph.edgesOf (importsAmong modules)) =
        .ok graph ∧
      graph.IsReadFrom toolchain.ownership entries := by
  cases h with
  | @read text value _ hprints hread hgraph =>
    have hkeys : Json.HasDistinctKeys value := by
      cases value with
      | table entries => exact Json.nodup_keys_of_read hread
      | _ => trivial
    have hreads := ImportGraph.readsModules toolchain.ownership hkeys
    -- What is not refused is an object without malformed entries.
    have haccepted :
        ¬ ∃ cause, (ImportGraph.ofValue toolchain.ownership value).2 = .error cause := by
      rintro ⟨cause, hcause⟩
      rw [hcause] at hgraph
      cases hgraph
    rw [hreads.refused_iff, not_or] at haccepted
    push Not at haccepted
    obtain ⟨⟨entries, rfl⟩, hwell⟩ := haccepted
    have hentries := hwell entries rfl
    obtain ⟨modules, graph', hmodules, hedges, hgraph', hfrom⟩ := hreads.read entries rfl hentries
    obtain rfl := Except.ok.inj (hgraph'.symm.trans hgraph)
    exact ⟨entries, modules, ⟨text, hprints, hread, hentries⟩, hmodules, hedges, hfrom⟩

/-- An object without malformed entries is read as a graph. -/
theorem exists_graph_of_printsModules {outcome : ProcessOutcome} {entries : JsonObject}
    (h : outcome.PrintsModules entries) :
    ∃ graph, (toolchain.graphReply outcome).answer = .ok graph := by
  obtain ⟨text, ⟨complaint, rfl⟩, hread, hentries⟩ := h
  obtain ⟨modules, -, hgraph, -⟩ := ImportGraph.exists_ofValue_eq_ok toolchain.ownership
    (Json.nodup_keys_of_read hread) hentries
  exact ⟨_, toolchain.answer_graphReply (Text.Utf8.decode_eq_ok_iff.2 rfl) hread hgraph⟩

/-- Both ends of an import have owners. -/
theorem isSome_ownerOf?_of_mem_edges {graph : ImportGraph} {edge : Edge}
    (h : edge ∈ graph.edges) :
    (graph.ownerOf? edge.source).isSome = true ∧ (graph.ownerOf? edge.target).isSome = true := by
  have howned := graph.owned edge h
  rw [Edge.isOwned, Bool.and_eq_true, Table.hasKey_iff, Table.hasKey_iff] at howned
  exact ⟨Table.isSome_get?_iff.2 howned.1, Table.isSome_get?_iff.2 howned.2⟩

/-- Where the process could be started in its directory and printed nothing beyond what can be read,
a request fails with a fault of the graph. -/
theorem exists_cause_of_error {outcome : ProcessOutcome} {failure : Failure}
    (hdirectory : outcome ≠ .noDirectory) (hbounds : outcome.IsWithinBounds)
    (h : toolchain.GraphReplyEnds outcome (.error failure)) :
    ∃ cause, failure = graphFailure cause := by
  cases h with
  | fault cause => exact ⟨cause, rfl⟩
  | excess hprints hread => exact absurd hread (hbounds _ hprints _)
  | noDirectory hnone => exact absurd hnone hdirectory

/-- An audit outlives the faults of the graph: if a request fails with nothing else, the audit of
its package ends, and finds nothing without a graph. -/
theorem exists_auditPackage
    (hfault : ∀ failure, toolchain.requested processes past globs arguments = .error failure →
      ∃ cause, failure = graphFailure cause)
    {workspace : Workspace} {settings : Settings} (packages : List Package) {package : Package}
    {session : Session} (hpackage : package ∈ workspace.packages)
    (hcall : graphCall workspace settings package = .graph globs arguments)
    (hpast : session.calls = past) :
    ∃ found later,
      (auditContext workspace settings (toolchain.tools processes) packages).auditPackage package
        session = (.ok found, later) ∧
      ((∃ failure, toolchain.requested processes past globs arguments = .error failure) →
        found = []) := by
  obtain ⟨later, -, haudit⟩ := auditPackage_apply workspace settings (toolchain.tools processes)
    packages hpackage session
  -- What the audit asks for is this very request, made after the same calls.
  have hanswer : graphAnswer workspace settings (toolchain.tools processes) session.calls package =
      toolchain.requested processes past globs arguments := by
    obtain ⟨hglobs, harguments⟩ := ToolCall.graph.inj hcall
    rw [graphAnswer, requested, hpast, hglobs, harguments]
  rw [hanswer] at haudit
  rcases hrequested : toolchain.requested processes past globs arguments with failure | graph
  · obtain ⟨cause, rfl⟩ := hfault failure hrequested
    rw [hrequested] at haudit
    exact ⟨[], later, haudit, fun _ => rfl⟩
  · rw [hrequested] at haudit
    refine ⟨_, later, haudit, ?_⟩
    rintro ⟨failure, hfailure⟩
    cases hfailure

/-- A request gives a graph just if the process prints one, and fails with a fault of the graph
otherwise, which the audit of its package outlives. -/
theorem answersGraphRequest
    (hdirectory : toolchain.requestOutcome processes past globs arguments ≠ .noDirectory)
    (hbounds : (toolchain.requestOutcome processes past globs arguments).IsWithinBounds) :
    toolchain.AnswersGraphRequest processes past globs arguments := by
  have hends : toolchain.GraphReplyEnds (toolchain.requestOutcome processes past globs arguments)
      (toolchain.requested processes past globs arguments) :=
    toolchain.graphReplyEnds _
  have hfault (failure : Failure)
      (h : toolchain.requested processes past globs arguments = .error failure) :
      ∃ cause, failure = graphFailure cause := by
    rw [h] at hends
    -- Neither a missing directory nor a text beyond what can be read is left as the cause.
    exact toolchain.exists_cause_of_error hdirectory hbounds hends
  constructor
  case graph_iff =>
    constructor
    · rintro ⟨graph, hgraph⟩
      rw [hgraph] at hends
      obtain ⟨entries, -, hprints, -⟩ := toolchain.exists_printsModules hends
      exact ⟨entries, hprints⟩
    · rintro ⟨entries, hprints⟩
      exact toolchain.exists_graph_of_printsModules hprints
  case checked =>
    intro graph hgraph
    rw [hgraph] at hends
    obtain ⟨entries, modules, hprints, hmodules, hedges, hfrom⟩ :=
      toolchain.exists_printsModules hends
    exact ⟨entries, modules, hprints, hmodules, hedges, hfrom,
      fun edge hedge => isSome_ownerOf?_of_mem_edges hedge⟩
  case fault => exact hfault
  case audited =>
    intro workspace settings packages package session hpackage hcall hpast
    exact toolchain.exists_auditPackage processes past globs arguments hfault packages hpackage
      hcall hpast

/-- Processes that end well and print octets that start no character. -/
def garbled : Processes := fun _ _ => .exited 0 [0xFF, 0xFE] []

/-- The object of modules is read as a graph. The octets that are no text are a fault, and the audit
of `app` ends without findings. -/
theorem answersGraphRequest_garbled :
    (∃ graph, plain.requested ProcessScript.printing.processes [] [] [] = .ok graph) ∧
      (∃ cause, plain.requested garbled [] (Workspace.paired.auditGlobs Workspace.app) [] =
        .error (graphFailure cause)) ∧
      ∃ later, (auditContext .paired {} (plain.tools garbled) []).auditPackage Workspace.app .bare =
        (.ok [], later) := by
  have hprinting : plain.AnswersGraphRequest ProcessScript.printing.processes [] [] [] := by
    refine plain.answersGraphRequest _ _ _ _ (fun h => by cases h) ?_
    rintro text ⟨complaint, houtcome⟩ excess hread
    obtain ⟨-, hoctets, -⟩ := ProcessOutcome.exited.inj houtcome
    obtain ⟨entries, hentries, -⟩ := exists_read_crossing
    rw [← Text.Utf8.encode_injective hoctets, hentries] at hread
    cases hread
  have hunreadable (text : String) : ¬ (plain.requestOutcome garbled []
      (Workspace.paired.auditGlobs Workspace.app) []).Prints text := by
    -- No text has these octets.
    have hgarbage : (Text.Utf8.decode [0xFF, 0xFE]).isOk = false := by decide +kernel
    rintro ⟨complaint, houtcome⟩
    obtain ⟨-, hoctets, -⟩ := ProcessOutcome.exited.inj houtcome
    rw [Text.Utf8.decode_eq_ok_iff.2 hoctets] at hgarbage
    cases hgarbage
  have hgarbled : plain.AnswersGraphRequest garbled []
      (Workspace.paired.auditGlobs Workspace.app) [] :=
    plain.answersGraphRequest _ _ _ _ (fun h => by cases h)
      fun text hprints => absurd hprints (hunreadable text)
  -- A graph would have been printed as a text.
  have hfault : ∃ failure, plain.requested garbled []
      (Workspace.paired.auditGlobs Workspace.app) [] = .error failure := by
    rcases hrequested : plain.requested garbled [] (Workspace.paired.auditGlobs Workspace.app) []
      with failure | graph
    · exact ⟨failure, rfl⟩
    · obtain ⟨_, text, hprints, -⟩ := hgarbled.graph_iff.1 ⟨graph, hrequested⟩
      exact absurd hprints (hunreadable text)
  refine ⟨?_, ?_, ?_⟩
  · obtain ⟨entries, hread, hlisting⟩ := exists_read_crossing
    refine hprinting.graph_iff.2 ⟨entries, crossing, ⟨[], rfl⟩, hread, fun entry hentry => ?_⟩
    obtain ⟨described, hdescribed⟩ := hlisting entry.1 entry.2 hentry
    exact fun hmalformed => isMalformed_iff.1 hmalformed described hdescribed
  · obtain ⟨failure, hfailure⟩ := hfault
    obtain ⟨cause, rfl⟩ := hgarbled.fault failure hfailure
    exact ⟨cause, hfailure⟩
  · obtain ⟨found, later, haudit, hnone⟩ :=
      hgarbled.audited .paired {} [] Workspace.app .bare (.head _) rfl rfl
    rw [hnone hfault] at haudit
    exact ⟨later, haudit⟩

end Toolchain

end BuildAudit
