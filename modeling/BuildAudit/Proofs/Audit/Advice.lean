import BuildAudit.Proofs.Graph.Basic
import BuildAudit.Proofs.Usage
import Mathlib.Data.List.Sort

/-!
# Following the advice of an audit

The diagnostics about a package say which declared dependencies to remove and which packages to
declare. Whoever follows this advice declares exactly the packages that are used
(`followed_diagnose`), whatever was declared before, and no other set of names leaves an audit
without diagnostics (`diagnose_eq_nil_iff`). So the advice settles the package at once, and auditing
and mending never go round in circles (`diagnose_followed`).
-/

namespace BuildAudit

/-- Names after the advice of a diagnostic has been followed: unused dependencies are removed, and
missing ones are added. -/
def Diagnostic.follow (names : NameSet) (diagnostic : Diagnostic) : NameSet :=
  match diagnostic with
  | .unused .. => OrderedSet.diff names diagnostic.dependencies
  | .transitive .. => OrderedSet.ofList (names ++ diagnostic.dependencies)

/-- The set of declared names, in canonical form. -/
def declaredSet (declared : List String) : NameSet :=
  OrderedSet.ofList (declared.map canonicalName)

/-- Declared names after the advice of diagnostics has been followed. -/
def followed (declared : List String) (diagnostics : List Diagnostic) : NameSet :=
  diagnostics.foldl Diagnostic.follow (declaredSet declared)

/-- Canonical names in ascending order are the set that they declare. -/
theorem declaredSet_eq_self {names : NameSet} (hascending : names.Pairwise (· < ·))
    (hcanonical : ∀ name ∈ names, canonicalName name = name) : declaredSet names = names := by
  refine (OrderedSet.pairwise_ofList _).eq_of_mem_iff hascending fun name => ?_
  rw [OrderedSet.mem_ofList, List.map_congr_left hcanonical, List.map_id']

/-- Following findings removes the unused names and adds those that are missing. -/
theorem mem_followed_findings {package installCommand name : String} {declared : List String}
    {unused : NameSet} {modules : Table ImportTable} :
    name ∈ followed declared (findings package unused modules installCommand) ↔
      name ∈ declaredSet declared ∧ name ∉ unused ∨ name ∈ modules.keys := by
  -- A diagnostic that is left out has nothing to remove or to add.
  by_cases hunused : unused = [] <;> by_cases hmodules : modules = [] <;>
    simp [followed, findings, hunused, hmodules, Diagnostic.follow, Diagnostic.dependencies,
      Table.keys]

/-- Whatever is followed from findings is in ascending order. -/
theorem pairwise_followed (declared : List String) (diagnostics : List Diagnostic) :
    (followed declared diagnostics).Pairwise (· < ·) := by
  have hfold (names : NameSet) (h : names.Pairwise (· < ·)) :
      (diagnostics.foldl Diagnostic.follow names).Pairwise (· < ·) := by
    induction diagnostics generalizing names with
    | nil => exact h
    | cons diagnostic rest ih =>
      refine ih _ ?_
      cases diagnostic with
      | unused => exact h.filter _
      | transitive => exact OrderedSet.pairwise_ofList _
  exact hfold _ (OrderedSet.pairwise_ofList _)

namespace ImportGraph

/-- What is reported about a package that declares dependencies. -/
def diagnose (graph : ImportGraph) (package installCommand : String) (declared : List String) :
    List Diagnostic :=
  (graph.usage package declared).diagnostics package installCommand

variable (graph : ImportGraph) (package installCommand : String)

/-- A package that is used owns a module, and it is not the package itself. -/
theorem exists_owner_of_mem_usedBy {name : String} (h : name ∈ graph.usedBy package) :
    name ≠ canonicalName package ∧ ∃ module, graph.ownerOf? module = some name := by
  obtain ⟨hne, -, -, target, -, howner⟩ := graph.mem_usedBy_iff.1 h
  exact ⟨hne, target, howner⟩

/-- The declared dependencies that are reported as unused. -/
theorem unused_usage (declared : List String) :
    (graph.usage package declared).unused =
      OrderedSet.diff (declaredSet declared) (graph.usedBy package) := by
  rw [usage_eq, declaredSet]

/-- Nothing is reported about a package just if it declares exactly the packages that it uses. -/
theorem diagnose_eq_nil_iff (declared : List String) :
    graph.diagnose package installCommand declared = [] ↔
      declaredSet declared = graph.usedBy package := by
  have hkeys := graph.keys_undeclared package declared
  rw [diagnose, diagnostics_usage, findings_eq_nil_iff, unused_usage]
  constructor
  · rintro ⟨hunused, hundeclared⟩
    rw [hundeclared, Table.keys, List.map_nil] at hkeys
    -- Neither set has a name that the other one lacks.
    refine (OrderedSet.pairwise_ofList _).eq_of_mem_iff (graph.pairwise_usedBy package)
      fun name => ?_
    have hleft := List.eq_nil_iff_forall_not_mem.1 hunused name
    have hright := List.eq_nil_iff_forall_not_mem.1 hkeys.symm name
    rw [OrderedSet.mem_diff] at hleft hright
    exact ⟨fun h => by_contra fun hnot => hleft ⟨h, hnot⟩,
      fun h => by_contra fun hnot => hright ⟨h, hnot⟩⟩
  · intro h
    have hnone : OrderedSet.diff (graph.usedBy package) (graph.usedBy package) = [] := by
      simp [OrderedSet.diff]
    rw [declaredSet] at h
    rw [h] at hkeys
    rw [declaredSet, h]
    exact ⟨hnone, List.map_eq_nil_iff.1 (hkeys.trans hnone)⟩

/-- Whoever follows what is reported about a package declares exactly the packages that it uses. -/
theorem followed_diagnose (declared : List String) :
    followed declared (graph.diagnose package installCommand declared) = graph.usedBy package := by
  refine (pairwise_followed _ _).eq_of_mem_iff (graph.pairwise_usedBy package) fun name => ?_
  rw [diagnose, diagnostics_usage, mem_followed_findings, unused_usage, keys_undeclared,
    OrderedSet.mem_diff, OrderedSet.mem_diff, ← declaredSet]
  tauto

end ImportGraph

/-- Following the advice about a package settles it. With the names that are declared then nothing
is reported, the package itself is not among them, and no other set of names will do. -/
theorem diagnose_followed {owners : OwnerTable} {edges : List Edge} {graph : ImportGraph}
    (hgraph : ImportGraph.ofEdges owners edges = .ok graph) (package installCommand : String)
    (declared : List String) :
    graph.diagnose package installCommand
        (followed declared (graph.diagnose package installCommand declared)) = [] ∧
      (∀ name ∈ followed declared (graph.diagnose package installCommand declared),
        canonicalName name ≠ canonicalName package) ∧
      ∀ names, graph.diagnose package installCommand names = [] ↔
        declaredSet names =
          followed declared (graph.diagnose package installCommand declared) := by
  -- The names that are used are names of owners, which a graph that was made has in canonical form.
  have hcanonical : ∀ name ∈ graph.usedBy package, canonicalName name = name := by
    intro name hname
    obtain ⟨-, module, howner⟩ := graph.exists_owner_of_mem_usedBy package hname
    exact ImportGraph.canonical_of_ofEdges hgraph howner
  rw [graph.followed_diagnose package installCommand declared]
  refine ⟨?_, fun name hname => ?_, graph.diagnose_eq_nil_iff package installCommand⟩
  · rw [graph.diagnose_eq_nil_iff]
    exact declaredSet_eq_self (graph.pairwise_usedBy package) hcanonical
  · rw [hcanonical name hname]
    exact (graph.exists_owner_of_mem_usedBy package hname).1

/-- Owners of modules, in various spellings. -/
def spelledOwners : OwnerTable :=
  [("App", " App"), ("App.Main", "APP"), ("Lib.A", "Lib-A "), ("Lib.B", "lib-b")]

/-- Imports of the modules of `app`: one within the package and two from `lib-a`. -/
def spelledImports : List Edge :=
  [{ source := "App.Main", target := "App" }, { source := "App", target := "Lib.A" },
    { source := "App.Main", target := "Lib.A" }]

/-- The package declares itself and `lib-b`, neither of which it uses, and it lacks `lib-a`. -/
theorem diagnose_followed_spelled :
    ∃ graph, ImportGraph.ofEdges spelledOwners spelledImports = .ok graph ∧
      (graph.diagnose "App " "spago install" ["App", "Lib-B"]).length = 2 ∧
      followed ["App", "Lib-B"] (graph.diagnose "App " "spago install" ["App", "Lib-B"]) =
        ["lib-a"] ∧
      graph.diagnose "App " "spago install" ["lib-a"] = [] ∧
      ∀ names, graph.diagnose "App " "spago install" names = [] ↔
        declaredSet names = ["lib-a"] := by
  have hgraph : ImportGraph.ofEdges spelledOwners spelledImports =
      .ok (.restrict spelledOwners spelledImports) := by
    rw [ImportGraph.ofEdges, show spelledImports.findSome? (ImportGraph.unowned? spelledOwners) =
      none by decide +kernel]
  have hfollowed : followed ["App", "Lib-B"]
      ((ImportGraph.restrict spelledOwners spelledImports).diagnose "App " "spago install"
        ["App", "Lib-B"]) = ["lib-a"] := by
    decide +kernel
  obtain ⟨hnone, -, honly⟩ := diagnose_followed hgraph "App " "spago install" ["App", "Lib-B"]
  rw [hfollowed] at hnone honly
  exact ⟨_, hgraph, by decide +kernel, hfollowed, hnone, honly⟩

end BuildAudit
