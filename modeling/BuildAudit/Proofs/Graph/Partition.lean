import BuildAudit.Proofs.Graph.Basic
import BuildAudit.Proofs.Usage

/-!
# Import graphs divide modules among packages

Owners are kept under their canonical names, and the canonical form of a canonical name is the name
itself, so it does not matter how often a name has been brought into this form: a package finds its
own modules, every module is found by one package, and a graph that is made of the owners and
imports of another one is the same graph (`makesPartitions`).
-/

namespace BuildAudit.ImportGraph

/-- The modules of a graph are divided among its packages. -/
structure Partitions (graph : ImportGraph) : Prop where
  /-- The modules of a package are those whose owner has its name in canonical form. -/
  mem_modulesOf_iff : ∀ package module,
    module ∈ graph.modulesOf package ↔ graph.ownerOf? module = some (canonicalName package)
  /-- Every package owns modules. -/
  modulesOf_ne_nil : ∀ package ∈ graph.packages, graph.modulesOf package ≠ []
  /-- No two packages own the same module. -/
  disjoint : ∀ first ∈ graph.packages, ∀ second ∈ graph.packages, first ≠ second →
    List.Disjoint (graph.modulesOf first) (graph.modulesOf second)
  /-- The modules are those that the packages own. -/
  covers : ∀ module,
    module ∈ graph.owners.keys ↔ ∃ package ∈ graph.packages, module ∈ graph.modulesOf package

/-- What comes of making a graph of owners and imports. -/
structure MakesPartitions (owners : OwnerTable) (edges : List Edge) : Prop where
  /-- It fails just if an end of an import has no owner. -/
  refused_iff : (∃ fault, ofEdges owners edges = .error fault) ↔
    ∃ edge ∈ edges, ∃ module, IsUnownedEnd owners edge module
  /-- Then such an import is named, with that end of it. -/
  unowned : ∀ fault, ofEdges owners edges = .error fault →
    fault.edge ∈ edges ∧ IsUnownedEnd owners fault.edge fault.module
  /-- Otherwise modules have the owners that were given, under their canonical names. -/
  owner_eq : ∀ graph, ofEdges owners edges = .ok graph → ∀ module,
    graph.ownerOf? module = (owners.get? module).map canonicalName
  /-- The imports are those that were given. -/
  mem_edges_iff : ∀ graph, ofEdges owners edges = .ok graph → ∀ edge,
    edge ∈ graph.edges ↔ edge ∈ edges
  /-- The modules are divided among the packages. -/
  partitions : ∀ graph, ofEdges owners edges = .ok graph → graph.Partitions
  /-- The graph that is made of the graph's own owners and imports is the same. -/
  again : ∀ graph, ofEdges owners edges = .ok graph →
    ofEdges graph.owners graph.edges = .ok graph

section Divide

variable {graph : ImportGraph}

/-- The packages of a graph are the owners of its modules. -/
theorem mem_packages_iff (h : graph.owners.keys.Nodup) {package : String} :
    package ∈ graph.packages ↔ ∃ module, graph.ownerOf? module = some package := by
  rw [packages, OrderedSet.mem_ofList, Table.values, List.mem_map]
  simp only [ownerOf?, Table.get?_eq_some_iff h]
  constructor
  · rintro ⟨⟨module, name⟩, hmem, rfl⟩
    exact ⟨module, hmem⟩
  · rintro ⟨module, hmem⟩
    exact ⟨(module, package), hmem, rfl⟩

/-- A graph whose owners are canonical names divides its modules among its packages. -/
theorem partitions_of_canonical (hkeys : graph.owners.keys.Nodup)
    (hcanonical : ∀ module package, graph.ownerOf? module = some package →
      canonicalName package = package) : graph.Partitions := by
  have hmodules (package : String) (module : CodeText) :
      module ∈ graph.modulesOf package ↔ graph.ownerOf? module = some (canonicalName package) :=
    graph.represents_view.mem_modulesOf
  have hname {package : String} (h : package ∈ graph.packages) :
      canonicalName package = package := by
    obtain ⟨module, howner⟩ := (mem_packages_iff hkeys).1 h
    exact hcanonical module package howner
  refine ⟨hmodules, ?nonempty, ?disjoint, ?covers⟩
  case nonempty =>
    intro package hpackage
    obtain ⟨module, howner⟩ := (mem_packages_iff hkeys).1 hpackage
    rw [← hname hpackage] at howner
    exact List.ne_nil_of_mem ((hmodules package module).2 howner)
  case disjoint =>
    intro first hfirst second hsecond hne module hmem hmem'
    -- A module in both would be owned by both, and it has one owner.
    rw [hmodules, hname hfirst] at hmem
    rw [hmodules, hname hsecond, hmem] at hmem'
    exact hne (Option.some.inj hmem')
  case covers =>
    intro module
    rw [← Table.hasKey_iff, hasKey_owners_iff]
    constructor
    · rintro ⟨package, howner⟩
      refine ⟨package, (mem_packages_iff hkeys).2 ⟨module, howner⟩, ?_⟩
      rw [hmodules, hcanonical module package howner, howner]
    · rintro ⟨package, -, hmem⟩
      exact ⟨_, (hmodules package module).1 hmem⟩

end Divide

/-- Owners and imports make a graph that divides the modules among packages, unless an import has an
end without an owner. -/
theorem makesPartitions {owners : OwnerTable} (hkeys : owners.keys.Nodup) (edges : List Edge) :
    (∀ name, canonicalName (canonicalName name) = canonicalName name) ∧
      MakesPartitions owners edges := by
  refine ⟨canonicalName_canonicalName, ?_⟩
  constructor
  case refused_iff =>
    constructor
    · rintro ⟨fault, hfault⟩
      obtain ⟨hedge, hend⟩ := isUnownedEnd_of_ofEdges hfault
      exact ⟨fault.edge, hedge, fault.module, hend⟩
    · rintro ⟨edge, hedge, module, hend⟩
      rcases hmade : ofEdges owners edges with fault | graph
      · exact ⟨fault, rfl⟩
      · have howned := (ofEdges_eq_ok_iff.1 hmade).1 edge hedge
        exact absurd hend (not_isUnownedEnd_of_isOwned howned module)
  case unowned => exact fun fault => isUnownedEnd_of_ofEdges
  case owner_eq =>
    intro graph hmade module
    obtain ⟨-, rfl⟩ := ofEdges_eq_ok_iff.1 hmade
    exact ownerOf?_restrict module
  case mem_edges_iff =>
    intro graph hmade edge
    obtain ⟨howned, rfl⟩ := ofEdges_eq_ok_iff.1 hmade
    rw [edges_restrict howned, OrderedSet.mem_ofList]
  case partitions =>
    intro graph hmade
    obtain ⟨-, rfl⟩ := ofEdges_eq_ok_iff.1 hmade
    refine partitions_of_canonical ?_ fun _ _ => canonical_of_ofEdges hmade
    rw [keys_owners_restrict]
    exact hkeys
  case again =>
    intro graph hmade
    obtain ⟨howned, rfl⟩ := ofEdges_eq_ok_iff.1 hmade
    -- Owners and imports that have been settled once are settled again as they are.
    refine ofEdges_eq_self ?_ ?_
    · exact List.forall_mem_map.2 fun entry _ => canonicalName_canonicalName entry.2
    · rw [edges_restrict howned]
      exact OrderedSet.pairwise_ofList edges

/-- Two modules of one package, whose name is spelled in two ways, and one of a package whose name
gets longer in canonical form. -/
def spelledApart : OwnerTable :=
  [("App.Main", " ΟΔΟΣ\u2003"), ("App.Util", "οδος"), ("Lib.A", "İ")]

/-- Both modules belong to the one package, the last sigma of which is a final one. An import of a
module that nobody owns is refused. -/
theorem makesPartitions_spelledApart :
    spelledApart.keys.Nodup ∧
      (∃ graph, ofEdges spelledApart [⟨"App.Main", "Lib.A"⟩] = .ok graph ∧ graph.Partitions ∧
        graph.modulesOf "ΟΔΟΣ" = [.ofString "App.Main", .ofString "App.Util"] ∧
        graph.packages = ["i\u0307", "οδος"] ∧ ofEdges graph.owners graph.edges = .ok graph) ∧
      ∃ fault, ofEdges spelledApart [⟨"App.Main", "Prim"⟩] = .error fault := by
  have hkeys : spelledApart.keys.Nodup := by decide
  have hmakes := (makesPartitions hkeys [⟨"App.Main", "Lib.A"⟩]).2
  have howned : ∀ edge ∈ ([⟨"App.Main", "Lib.A"⟩] : List Edge),
      edge.isOwned spelledApart = true := by
    decide
  have hmade := ofEdges_eq_ok_iff.2 ⟨howned, rfl⟩
  refine ⟨hkeys, ⟨_, hmade, hmakes.partitions _ hmade, ?_, ?_, hmakes.again _ hmade⟩, ?_⟩
  · decide +kernel
  · decide +kernel
  · exact (makesPartitions hkeys [⟨"App.Main", "Prim"⟩]).2.refused_iff.2
      ⟨_, List.mem_singleton_self _, "Prim", Or.inr rfl, by decide⟩

end BuildAudit.ImportGraph
