import BuildAudit.Package.Basic
import BuildAudit.Proofs.Tally
import BuildAudit.Usage.Diagnostic

/-!
# Exact findings

An `ImportView` says who owns modules and which modules import which, without saying how that is
kept. `ImportView.Exact` says which diagnostics about a package are right in such a view: the
declared dependencies that are not used, then the used packages that are not declared with all
imports that use them, everything in ascending order and nothing else.

An import graph represents a view if it has the same owners and just the imports between modules
that have owners. What the audit finds in a graph is exact in every view that the graph represents
(`exact_diagnostics`), and there is nothing to find just if the package uses what it declares
(`ImportView.Exact.eq_nil_iff`).
-/

namespace BuildAudit

/-- Who owns modules, and which modules import which. -/
structure ImportView where
  /-- A package owns a module. -/
  owns : String → CodeText → Prop
  /-- A module imports another one. -/
  imports : CodeText → CodeText → Prop

/-- The diagnostics for unused dependencies and for the imports from undeclared ones. -/
def findings (package : String) (unused : NameSet) (modules : Table ImportTable)
    (installCommand : String) : List Diagnostic :=
  (if unused = [] then [] else [.unused package unused]) ++
    if modules = [] then [] else [.transitive package modules installCommand]

/-- There are no diagnostics just if there is nothing to complain about. -/
theorem findings_eq_nil_iff {package installCommand : String} {unused : NameSet}
    {modules : Table ImportTable} :
    findings package unused modules installCommand = [] ↔ unused = [] ∧ modules = [] := by
  rw [findings, List.append_eq_nil_iff]
  refine and_congr ?_ ?_ <;> split <;> simp_all

/-- A finding is the one about the unused dependencies or the one about the undeclared packages. -/
theorem eq_or_eq_of_mem_findings {package installCommand : String} {unused : NameSet}
    {modules : Table ImportTable} {diagnostic : Diagnostic}
    (h : diagnostic ∈ findings package unused modules installCommand) :
    diagnostic = .unused package unused ∨
      diagnostic = .transitive package modules installCommand := by
  rcases List.mem_append.1 h with hfound | hfound <;> split at hfound
  · cases hfound
  · exact Or.inl (List.mem_singleton.1 hfound)
  · cases hfound
  · exact Or.inr (List.mem_singleton.1 hfound)

/-- Findings are about the package that they are made for. -/
theorem package_eq_of_mem_findings {package installCommand : String} {unused : NameSet}
    {modules : Table ImportTable} {diagnostic : Diagnostic}
    (h : diagnostic ∈ findings package unused modules installCommand) :
    diagnostic.package = package := by
  rcases eq_or_eq_of_mem_findings h with rfl | rfl <;> rfl

/-- Of diagnostics about one package all are about that package. -/
theorem filter_package_eq_self {found : List Diagnostic} {name : String}
    (h : ∀ diagnostic ∈ found, diagnostic.package = name) :
    found.filter (·.package == name) = found := by
  rw [List.filter_eq_self]
  intro diagnostic hmem
  rw [h diagnostic hmem, beq_self_eq_true]

/-- Of diagnostics about other packages none is about a package. -/
theorem filter_package_eq_nil {found : List Diagnostic} {name : String}
    (h : ∀ diagnostic ∈ found, diagnostic.package ≠ name) :
    found.filter (·.package == name) = [] := by
  rw [List.filter_eq_nil_iff]
  intro diagnostic hmem
  rw [beq_iff_eq]
  exact h diagnostic hmem

/-- If what is found about each package is about that package, then of what is found about packages
that about a name is what is found about the packages of the name. -/
theorem filter_flatMap_eq {found : Package → List Diagnostic} {list : List Package}
    (h : ∀ package ∈ list, ∀ diagnostic ∈ found package, diagnostic.package = package.name)
    (name : String) :
    (list.flatMap found).filter (·.package == name) =
      (list.filter (·.name == name)).flatMap found := by
  induction list with
  | nil => rfl
  | cons package rest ih =>
    obtain ⟨hpackage, hrest⟩ := List.forall_mem_cons.1 h
    rw [List.flatMap_cons, List.filter_append, ih hrest, List.filter_cons]
    by_cases hname : package.name = name
    · rw [if_pos (beq_iff_eq.2 hname), List.flatMap_cons, filter_package_eq_self (hname ▸ hpackage)]
    · have hnone : (found package).filter (·.package == name) = [] := by
        refine filter_package_eq_nil fun diagnostic hmem => ?_
        rw [hpackage diagnostic hmem]
        exact hname
      rw [if_neg (by rwa [beq_iff_eq]), hnone, List.nil_append]

namespace ImportView

variable (view : ImportView)

/-- A package uses another one if a module of the first imports a module of the second. -/
def Uses (package name : String) : Prop :=
  name ≠ package ∧
    ∃ module target, view.owns package module ∧ view.imports module target ∧ view.owns name target

/-- A report about a package that declares names says which of them are not used, and how those
that are used and not declared are used. -/
structure Reports (package : String) (declared : List String) (report : UsageReport) : Prop where
  /-- The names that are declared and not used. -/
  unused : Enumerates report.unused fun name => name ∈ declared ∧ ¬ view.Uses package name
  /-- The names that are used and not declared. -/
  undeclared : Enumerates report.undeclared.keys fun name =>
    view.Uses package name ∧ name ∉ declared
  /-- Under such a name stand the modules of the package that import from it. -/
  importers : ∀ name uses, (name, uses) ∈ report.undeclared →
    Enumerates uses.keys fun module =>
      view.owns package module ∧ ∃ target, view.imports module target ∧ view.owns name target
  /-- Under such a module stands what it imports from the package of that name. -/
  targets : ∀ name uses, (name, uses) ∈ report.undeclared →
    ∀ module targets, (module, targets) ∈ uses →
      Enumerates targets fun target => view.imports module target ∧ view.owns name target

/-- The diagnostics about a package are the right ones. -/
def Exact (package : Package) (installCommand : String) (diagnostics : List Diagnostic) : Prop :=
  ∃ unused modules,
    diagnostics = findings package.name unused modules installCommand ∧
    Enumerates unused (fun name =>
      name ∈ package.dependencies ∧ ¬ view.Uses package.name name) ∧
    Enumerates modules.keys (fun name =>
      view.Uses package.name name ∧ name ∉ package.dependencies) ∧
    ∀ name importers, (name, importers) ∈ modules →
      Enumerates importers.keys (fun module =>
        view.owns package.name module ∧
          ∃ target, view.imports module target ∧ view.owns name target) ∧
      ∀ module targets, (module, targets) ∈ importers →
        Enumerates targets (fun target => view.imports module target ∧ view.owns name target)

/-- A package without diagnostics uses exactly the packages that it declares. -/
theorem Exact.eq_nil_iff {view : ImportView} {package : Package} {installCommand : String}
    {diagnostics : List Diagnostic} (h : view.Exact package installCommand diagnostics) :
    diagnostics = [] ↔
      ∀ name, view.Uses package.name name ↔ name ∈ package.dependencies := by
  obtain ⟨unused, modules, rfl, hunused, hmodules, -⟩ := h
  rw [findings_eq_nil_iff]
  constructor
  · rintro ⟨rfl, rfl⟩ name
    have hno := hunused.mem_iff name
    have hno' := hmodules.mem_iff name
    simp only [Table.keys, List.map_nil, List.not_mem_nil, false_iff, not_and,
      Classical.not_not] at hno hno'
    exact ⟨hno', hno⟩
  · intro h
    constructor
    · refine List.eq_nil_iff_forall_not_mem.2 fun name hname => ?_
      obtain ⟨hdeclared, hnot⟩ := (hunused.mem_iff name).1 hname
      exact hnot ((h name).2 hdeclared)
    · refine List.eq_nil_iff_forall_not_mem.2 fun entry hentry => ?_
      obtain ⟨name, importers⟩ := entry
      obtain ⟨huses, hnot⟩ := (hmodules.mem_iff name).1 (Table.mem_keys.2 ⟨importers, hentry⟩)
      exact hnot ((h name).1 huses)

/-- All right diagnostics about a package are about that package. -/
theorem Exact.package_eq {view : ImportView} {package : Package} {installCommand : String}
    {diagnostics : List Diagnostic} (h : view.Exact package installCommand diagnostics) :
    ∀ diagnostic ∈ diagnostics, diagnostic.package = package.name := by
  obtain ⟨unused, modules, rfl, -⟩ := h
  exact fun diagnostic => package_eq_of_mem_findings

end ImportView

/-- A graph has the owners of a view, and its imports between modules that have owners. -/
structure ImportGraph.Represents (graph : ImportGraph) (view : ImportView) : Prop where
  /-- The owners are those of the view. -/
  owner_iff : ∀ module name, graph.ownerOf? module = some name ↔ view.owns name module
  /-- The imports are those between owned modules. -/
  mem_edges_iff : ∀ module target, { source := module, target } ∈ graph.edges ↔
    view.imports module target ∧ (∃ name, view.owns name module) ∧ ∃ name, view.owns name target

namespace ImportGraph

/-- What a graph itself says about owners and imports. -/
def view (graph : ImportGraph) : ImportView where
  owns name module := graph.ownerOf? module = some name
  imports module target := { source := module, target } ∈ graph.edges

/-- The keys of a graph's owners are the modules that have owners. -/
theorem hasKey_owners_iff {graph : ImportGraph} {module : CodeText} :
    graph.owners.hasKey module = true ↔ ∃ name, graph.ownerOf? module = some name := by
  rw [Table.hasKey_iff, Table.mem_keys]
  constructor
  · rintro ⟨value, hmem⟩
    rcases hget : graph.ownerOf? module with _ | name
    · rw [ownerOf?, Table.get?, List.lookup_eq_none_iff] at hget
      exact absurd rfl (bne_iff_ne.1 (hget (module, value) hmem))
    · exact ⟨name, rfl⟩
  · rintro ⟨name, hname⟩
    exact ⟨name, Table.mem_of_get? hname⟩

/-- A graph represents what it says. -/
theorem represents_view (graph : ImportGraph) : graph.Represents graph.view where
  owner_iff _ _ := Iff.rfl
  mem_edges_iff module target := by
    refine ⟨fun hedge => ?_, And.left⟩
    have howned := graph.owned _ hedge
    rw [Edge.isOwned, Bool.and_eq_true, hasKey_owners_iff, hasKey_owners_iff] at howned
    exact ⟨hedge, howned⟩

namespace Represents

variable {graph : ImportGraph} {view : ImportView} (hview : graph.Represents view)

include hview

/-- The modules of a package are those that it owns. -/
theorem mem_modulesOf {package : String} {module : CodeText} :
    module ∈ graph.modulesOf package ↔ view.owns (canonicalName package) module := by
  rw [modulesOf, OrderedSet.mem_ofList, List.mem_filter, beq_iff_eq, hview.owner_iff,
    Table.mem_keys]
  refine ⟨And.right, fun howns => ⟨?_, howns⟩⟩
  exact ⟨_, Table.mem_of_get? ((hview.owner_iff module _).2 howns)⟩

/-- The imports of an owned module from a package. -/
theorem mem_importsFrom {module : CodeText} (howned : ∃ name, view.owns name module)
    (name : String) (target : CodeText) :
    target ∈ graph.importsFrom module name ↔
      view.imports module target ∧ view.owns name target := by
  rw [mem_importsFrom_iff, hview.owner_iff, hview.mem_edges_iff]
  refine and_congr_left fun howns => ?_
  -- Both ends are owned, so the graph has kept this import.
  exact ⟨And.left, fun himports => ⟨himports, howned, name, howns⟩⟩

/-- The packages that a package uses. -/
theorem mem_usedBy {package name : String} :
    name ∈ graph.usedBy package ↔ view.Uses (canonicalName package) name := by
  rw [mem_usedBy_iff, ImportView.Uses]
  refine and_congr_right fun _ => exists_congr fun module => ?_
  rw [hview.mem_modulesOf, ← exists_and_left]
  refine exists_congr fun target => and_congr_right fun howns => ?_
  rw [← mem_importsFrom_iff]
  exact hview.mem_importsFrom ⟨_, howns⟩ name target

end Represents

variable (graph : ImportGraph)

/-- The used packages that are not declared are the keys of what is undeclared. -/
theorem keys_undeclared (package : String) (declared : List String) :
    (graph.usage package declared).undeclared.keys =
      OrderedSet.diff (graph.usedBy package) (OrderedSet.ofList (declared.map canonicalName)) := by
  rw [usage_eq, Table.keys, List.map_map]
  exact List.map_id _

/-- What is listed for a package that is not declared are its uses. -/
theorem eq_usesOf_of_mem_undeclared {package : String} {declared : List String} {name : String}
    {importers : ImportTable}
    (h : (name, importers) ∈ (graph.usage package declared).undeclared) :
    importers = graph.usesOf package name := by
  rw [usage_eq, List.mem_map] at h
  obtain ⟨_, -, hentry⟩ := h
  cases hentry
  rfl

/-- The diagnostics about a package are the findings of its report, in which everything is in
ascending order already. -/
theorem diagnostics_usage (package : String) (declared : List String) (installCommand : String) :
    (graph.usage package declared).diagnostics package installCommand =
      findings package (graph.usage package declared).unused
        (graph.usage package declared).undeclared installCommand := by
  -- Both levels of the table are in order already: the packages, and the importing modules of each.
  have hkeys : (graph.usage package declared).undeclared.keys.Pairwise (· < ·) := by
    rw [keys_undeclared]
    exact (OrderedSet.pairwise_ofList _).filter _
  have hsorted : ((graph.usage package declared).undeclared.sorted.map fun entry =>
      (entry.1, entry.2.sorted)) = (graph.usage package declared).undeclared := by
    rw [Table.sorted_eq_self hkeys]
    refine (List.map_congr_left fun entry hentry => ?_).trans (List.map_id _)
    rw [graph.eq_usesOf_of_mem_undeclared hentry,
      Table.sorted_eq_self (graph.pairwise_keys_usesOf package entry.1),
      ← graph.eq_usesOf_of_mem_undeclared hentry]
    rfl
  rw [UsageReport.diagnostics, findings, hsorted]
  simp only [List.isEmpty_iff]

/-- The uses of a package list just the modules that import from it, with just what they import. -/
theorem enumerates_usesOf {view : ImportView} (hview : graph.Represents view)
    (package name : String) :
    Enumerates (graph.usesOf package name).keys (fun module =>
        view.owns (canonicalName package) module ∧
          ∃ target, view.imports module target ∧ view.owns name target) ∧
      ∀ module targets, (module, targets) ∈ graph.usesOf package name →
        Enumerates targets (fun target =>
          view.imports module target ∧ view.owns name target) := by
  refine ⟨⟨graph.pairwise_keys_usesOf package name, fun module => ?_⟩, ?_⟩
  · rw [Table.mem_keys]
    constructor
    · rintro ⟨targets, hmem⟩
      obtain ⟨hmodule, rfl, hne⟩ := graph.mem_usesOf.1 hmem
      rw [hview.mem_modulesOf] at hmodule
      obtain ⟨target, htarget⟩ := List.exists_mem_of_ne_nil _ hne
      exact ⟨hmodule, target, (hview.mem_importsFrom ⟨_, hmodule⟩ name target).1 htarget⟩
    · rintro ⟨howns, target, htarget⟩
      rw [← hview.mem_importsFrom ⟨_, howns⟩] at htarget
      refine ⟨_, graph.mem_usesOf.2 ⟨hview.mem_modulesOf.2 howns, rfl, ?_⟩⟩
      exact List.ne_nil_of_mem htarget
  · intro module targets hmem
    obtain ⟨hmodule, rfl, -⟩ := graph.mem_usesOf.1 hmem
    rw [hview.mem_modulesOf] at hmodule
    exact ⟨graph.pairwise_importsFrom module name, hview.mem_importsFrom ⟨_, hmodule⟩ name⟩

/-- An audit reports what is so in every view that the graph represents. -/
theorem reports_usage {view : ImportView} (hview : graph.Represents view) (package : String)
    (declared : List String) :
    view.Reports (canonicalName package) (declared.map canonicalName)
      (graph.usage package declared) where
  unused := by
    rw [usage_eq]
    refine ⟨(OrderedSet.pairwise_ofList _).filter _, fun name => ?_⟩
    rw [OrderedSet.mem_diff, OrderedSet.mem_ofList, hview.mem_usedBy]
  undeclared := by
    rw [keys_undeclared]
    refine ⟨(OrderedSet.pairwise_ofList _).filter _, fun name => ?_⟩
    rw [OrderedSet.mem_diff, OrderedSet.mem_ofList, hview.mem_usedBy]
  importers name uses hname := by
    rw [graph.eq_usesOf_of_mem_undeclared hname]
    exact (graph.enumerates_usesOf hview package name).1
  targets name uses hname := by
    rw [graph.eq_usesOf_of_mem_undeclared hname]
    exact (graph.enumerates_usesOf hview package name).2

/-- The diagnostics about a package are exact in every view that its import graph represents. -/
theorem exact_diagnostics {view : ImportView} (hview : graph.Represents view) (package : Package)
    (installCommand : String) :
    view.Exact package installCommand
      ((graph.usage package.name package.dependencies).diagnostics package.name
        installCommand) := by
  have hdeclared : package.dependencies.map canonicalName = package.dependencies := by
    rw [List.map_congr_left package.dependencies_canonical, List.map_id']
  have hreports := graph.reports_usage hview package.name package.dependencies
  rw [package.name_canonical, hdeclared] at hreports
  exact ⟨_, _, diagnostics_usage graph package.name package.dependencies installCommand,
    hreports.unused, hreports.undeclared, fun name uses hname =>
      ⟨hreports.importers name uses hname, hreports.targets name uses hname⟩⟩

end ImportGraph

end BuildAudit
