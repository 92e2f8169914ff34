import BuildAudit.Graph.Basic
import BuildAudit.Proofs.Table
import BuildAudit.Proofs.Text.CodeText

/-!
# Making import graphs

A graph is made of owners and imports just if both ends of each import have owners
(`ofEdges_eq_ok_iff`); otherwise the fault names such an end. The graph has the modules and the
imports that were given and the canonical names of the owners, so making a graph of what it has
gives the same graph (`ofEdges_eq_self`).
-/

namespace BuildAudit

/-- Imports are put in a linear order. -/
instance : IsStrictTotalOrder Edge (· < ·) where
  irrefl := by
    rintro edge (hlt | ⟨-, hlt⟩)
    · exact Std.Irrefl.irrefl edge.source hlt
    · exact Std.Irrefl.irrefl edge.target hlt
  trans := by
    rintro first second third (hlt | ⟨heq, hlt⟩) (hlt' | ⟨heq', hlt'⟩)
    · exact Or.inl (IsTrans.trans _ _ _ hlt hlt')
    · exact Or.inl (heq' ▸ hlt)
    · exact Or.inl (heq ▸ hlt')
    · exact Or.inr ⟨heq.trans heq', IsTrans.trans _ _ _ hlt hlt'⟩
  trichotomous := by
    rintro ⟨source, target⟩ ⟨source', target'⟩ hnot hnot'
    obtain ⟨hsource, htarget⟩ := not_or.1 hnot
    obtain ⟨hsource', htarget'⟩ := not_or.1 hnot'
    obtain rfl : source = source' := Std.Trichotomous.trichotomous _ _ hsource hsource'
    obtain rfl : target = target' :=
      Std.Trichotomous.trichotomous _ _ (fun h => htarget ⟨rfl, h⟩) fun h => htarget' ⟨rfl, h⟩
    rfl

namespace ImportGraph

/-- A module is an end of an import and has no owner. -/
def IsUnownedEnd (owners : OwnerTable) (edge : Edge) (module : CodeText) : Prop :=
  (module = edge.source ∨ module = edge.target) ∧ module ∉ owners.keys

/-- Graphs with the same owners and imports are the same. -/
theorem eq_of_parts_eq {left right : ImportGraph} (howners : left.owners = right.owners)
    (hedges : left.edges = right.edges) : left = right := by
  obtain ⟨owners, edges, howned⟩ := left
  obtain ⟨owners', edges', howned'⟩ := right
  obtain rfl : owners = owners' := howners
  obtain rfl : edges = edges' := hedges
  rfl

variable {owners : OwnerTable} {edges : List Edge} {graph : ImportGraph}

/-- An import passes the check just if both of its ends have owners. -/
theorem unowned?_eq_none_iff {edge : Edge} :
    unowned? owners edge = none ↔ edge.isOwned owners = true := by
  rw [unowned?, Edge.isOwned]
  cases owners.hasKey edge.source <;> cases owners.hasKey edge.target <;> simp

/-- An import that does not pass it has an end without an owner, which is named. -/
theorem isUnownedEnd_of_unowned? {edge : Edge} {fault : UnownedModule}
    (h : unowned? owners edge = some fault) :
    fault.edge = edge ∧ IsUnownedEnd owners edge fault.module := by
  rw [unowned?] at h
  split at h
  · next hsource =>
    cases h
    refine ⟨rfl, Or.inl rfl, ?_⟩
    rw [← Table.hasKey_iff]
    simpa using hsource
  · split at h
    · next htarget =>
      cases h
      refine ⟨rfl, Or.inr rfl, ?_⟩
      rw [← Table.hasKey_iff]
      simpa using htarget
    · cases h

/-- An import whose ends have owners has no end without one. -/
theorem not_isUnownedEnd_of_isOwned {edge : Edge} (h : edge.isOwned owners = true)
    (module : CodeText) : ¬ IsUnownedEnd owners edge module := by
  rw [Edge.isOwned, Bool.and_eq_true, Table.hasKey_iff, Table.hasKey_iff] at h
  rintro ⟨rfl | rfl, hnot⟩
  · exact hnot h.1
  · exact hnot h.2

/-- A graph is made if all ends of imports have owners. -/
theorem ofEdges_eq_ok_iff :
    ofEdges owners edges = .ok graph ↔
      (∀ edge ∈ edges, edge.isOwned owners = true) ∧ graph = restrict owners edges := by
  rw [ofEdges]
  constructor
  · intro h
    split at h
    · cases h
    · next hnone =>
      cases h
      rw [List.findSome?_eq_none_iff] at hnone
      exact ⟨fun edge hedge => unowned?_eq_none_iff.1 (hnone edge hedge), rfl⟩
  · rintro ⟨howned, rfl⟩
    have hnone : edges.findSome? (unowned? owners) = none :=
      List.findSome?_eq_none_iff.2 fun edge hedge => unowned?_eq_none_iff.2 (howned edge hedge)
    rw [hnone]

/-- No graph is made if an end of an import has no owner. -/
theorem isUnownedEnd_of_ofEdges {fault : UnownedModule}
    (h : ofEdges owners edges = .error fault) :
    fault.edge ∈ edges ∧ IsUnownedEnd owners fault.edge fault.module := by
  rw [ofEdges] at h
  split at h
  · next found hfound =>
    cases h
    obtain ⟨edge, hedge, hunowned⟩ := List.exists_of_findSome?_eq_some hfound
    obtain ⟨rfl, hend⟩ := isUnownedEnd_of_unowned? hunowned
    exact ⟨hedge, hend⟩
  · cases h

/-- The modules of a graph are those of the owners that were given. -/
theorem keys_owners_restrict (owners : OwnerTable) (edges : List Edge) :
    (restrict owners edges).owners.keys = owners.keys := by
  rw [restrict, Table.keys, List.map_map]
  rfl

/-- The ends of an import have owners in a graph if they have them among those that were given. -/
theorem isOwned_owners_restrict (owners : OwnerTable) (edges : List Edge) (edge : Edge) :
    edge.isOwned (restrict owners edges).owners = edge.isOwned owners := by
  rw [Bool.eq_iff_iff, Edge.isOwned, Edge.isOwned]
  simp only [Bool.and_eq_true, Table.hasKey_iff, keys_owners_restrict]

/-- Imports whose ends have owners are kept. -/
theorem edges_restrict (h : ∀ edge ∈ edges, edge.isOwned owners = true) :
    (restrict owners edges).edges = OrderedSet.ofList edges := by
  refine List.filter_eq_self.2 fun edge hedge => ?_
  exact (isOwned_owners_restrict owners edges edge).trans (h edge (OrderedSet.mem_ofList.1 hedge))

/-- The owners of a graph that was made are those that were given, under their canonical names. -/
theorem ownerOf?_restrict (module : CodeText) :
    (restrict owners edges).ownerOf? module = (owners.get? module).map canonicalName :=
  Table.get?_map owners canonicalName module

/-- The owners in a graph that was made are canonical names. -/
theorem canonical_of_ofEdges (h : ofEdges owners edges = .ok graph) {module : CodeText}
    {name : String} (howner : graph.ownerOf? module = some name) : canonicalName name = name := by
  obtain ⟨-, rfl⟩ := ofEdges_eq_ok_iff.1 h
  rw [ownerOf?_restrict, Option.map_eq_some_iff] at howner
  obtain ⟨given, -, rfl⟩ := howner
  exact canonicalName_canonicalName given

/-- A graph is made again of its owners and imports if the names of its owners are canonical and its
imports are in order. -/
theorem ofEdges_eq_self (hcanonical : ∀ entry ∈ graph.owners, canonicalName entry.2 = entry.2)
    (hascending : graph.edges.Pairwise (· < ·)) :
    ofEdges graph.owners graph.edges = .ok graph := by
  have howners : (restrict graph.owners graph.edges).owners = graph.owners := by
    refine (List.map_congr_left fun entry hentry => ?_).trans (List.map_id _)
    rw [hcanonical entry hentry]
    rfl
  have hedges : (restrict graph.owners graph.edges).edges = graph.edges := by
    rw [edges_restrict graph.owned, OrderedSet.ofList_eq_self hascending]
  exact ofEdges_eq_ok_iff.2 ⟨graph.owned, (eq_of_parts_eq howners hedges).symm⟩

end ImportGraph

end BuildAudit
