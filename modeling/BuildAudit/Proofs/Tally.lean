import BuildAudit.Proofs.Table
import BuildAudit.Proofs.Text.CodeText
import BuildAudit.Usage.Report
import Mathlib.Data.List.Sort

/-!
# Imports noted one after the other

An audit goes through the imports of a graph and notes each one that leads from the package to
another package. What has been noted in the end does not depend on how the imports are gone
through: a target stands under a package and a module just if the graph has that import
(`mem_targets_tally`). So the packages that are noted are the packages that are used (`usedBy`), and
what is noted about one of them are its uses (`usesOf`), each of which is said here without a walk
through the imports (`usage_eq`).
-/

namespace BuildAudit

namespace Table

variable {α κ : Type} [LT κ] [DecidableLT κ] [IsStrictTotalOrder κ (· < ·)]

omit [DecidableLT κ] in
/-- Tables with ascending keys and the same entries are the same. -/
theorem eq_of_mem_iff {left right : Table α κ} (hleft : left.keys.Pairwise (· < ·))
    (hright : right.keys.Pairwise (· < ·)) (h : ∀ entry, entry ∈ left ↔ entry ∈ right) :
    left = right := by
  have hirrefl : Std.Irrefl fun first second : κ × α => first.1 < second.1 :=
    ⟨fun entry => Std.Irrefl.irrefl entry.1⟩
  have hantisymm : Std.Antisymm fun first second : κ × α => first.1 < second.1 :=
    ⟨fun first second hlt hlt' => absurd hlt' (Std.Asymm.asymm _ _ hlt)⟩
  exact (List.pairwise_map.1 hleft).eq_of_mem_iff (List.pairwise_map.1 hright) h

omit [IsStrictTotalOrder κ (· < ·)] in
/-- The entries of a table in order are its entries. -/
theorem mem_sorted {table : Table α κ} {entry : κ × α} :
    entry ∈ table.sorted ↔ entry ∈ table :=
  List.mem_mergeSort

omit [IsStrictTotalOrder κ (· < ·)] in
/-- Distinct keys stay distinct when they are put in order. -/
theorem nodup_keys_sorted {table : Table α κ} (h : table.keys.Nodup) : table.sorted.keys.Nodup :=
  (((List.mergeSort_perm table _).map _).nodup_iff).2 h

/-- Distinct keys are ascending when they are put in order. -/
theorem pairwise_keys_sorted {table : Table α κ} (h : table.keys.Nodup) :
    table.sorted.keys.Pairwise (· < ·) := by
  have hle : table.sorted.Pairwise fun first second => (!decide (second.1 < first.1)) = true := by
    refine List.pairwise_mergeSort ?_ ?_ table
    · intro first second third hfirst hsecond
      simp only [Bool.not_eq_true', decide_eq_false_iff_not] at hfirst hsecond ⊢
      intro hlt
      -- The second key is not above the first one, so it is above the third one.
      rcases trichotomous_of (· < ·) first.1 second.1 with hless | heq | hgreater
      · exact hsecond (IsTrans.trans _ _ _ hlt hless)
      · exact hsecond (heq ▸ hlt)
      · exact hfirst hgreater
    · intro first second
      simp only [Bool.or_eq_true, Bool.not_eq_true', decide_eq_false_iff_not]
      exact Decidable.or_iff_not_imp_left.2 fun hlt => Std.Asymm.asymm _ _ (Decidable.not_not.1 hlt)
  have hne : table.sorted.Pairwise fun first second => first.1 ≠ second.1 :=
    List.pairwise_map.1 (nodup_keys_sorted h)
  refine List.pairwise_map.2 (hle.imp₂ ?_ hne)
  intro first second hfirst hdistinct
  simp only [Bool.not_eq_true', decide_eq_false_iff_not] at hfirst
  rcases trichotomous_of (· < ·) first.1 second.1 with hless | heq | hgreater
  · exact hless
  · exact absurd heq hdistinct
  · exact absurd hgreater hfirst

omit [IsStrictTotalOrder κ (· < ·)] in
/-- A table in order has the values of the table. -/
theorem get?_sorted [DecidableEq κ] {table : Table α κ} (h : table.keys.Nodup) (key : κ) :
    table.sorted.get? key = table.get? key := by
  refine Option.ext fun value => ?_
  rw [get?_eq_some_iff (nodup_keys_sorted h), get?_eq_some_iff h, mem_sorted]

end Table

namespace ImportGraph

variable (graph : ImportGraph)

/-- The packages other than itself that a package uses. -/
def usedBy (package : String) : NameSet :=
  let modules := graph.modulesOf package
  OrderedSet.ofList <|
    (graph.edges.filter fun edge => modules.contains edge.source).filterMap
      fun edge => (graph.ownerOf? edge.target).filter (· != canonicalName package)

/-- The modules of a package that a module imports. -/
def importsFrom (module : CodeText) (package : String) : ModuleSet :=
  (graph.importsOf module).filter fun target => graph.ownerOf? target == some package

/-- The modules of a package that import from another package, with what they import from it. -/
def usesOf (package used : String) : ImportTable :=
  (graph.modulesOf package).filterMap fun module =>
    match graph.importsFrom module used with
    | [] => none
    | target :: more => some (module, target :: more)

theorem pairwise_usedBy (package : String) : (graph.usedBy package).Pairwise (· < ·) :=
  OrderedSet.pairwise_ofList _

theorem pairwise_importsFrom (module : CodeText) (name : String) :
    (graph.importsFrom module name).Pairwise (· < ·) :=
  (OrderedSet.pairwise_ofList _).filter _

/-- An importing module is listed with its imports if there are any. -/
theorem mem_usesOf {package name : String} {module : CodeText} {targets : ModuleSet} :
    (module, targets) ∈ graph.usesOf package name ↔
      module ∈ graph.modulesOf package ∧ targets = graph.importsFrom module name ∧
        targets ≠ [] := by
  rw [usesOf, List.mem_filterMap]
  constructor
  · rintro ⟨source, hsource, hentry⟩
    split at hentry
    · cases hentry
    · next first more himports =>
      cases hentry
      exact ⟨hsource, himports.symm, List.cons_ne_nil first more⟩
  · rintro ⟨hmodule, htargets, hne⟩
    refine ⟨module, hmodule, ?_⟩
    rw [← htargets]
    split
    · exact absurd rfl hne
    · rfl

/-- The importing modules are listed in ascending order. -/
theorem pairwise_keys_usesOf (package name : String) :
    (graph.usesOf package name).keys.Pairwise (· < ·) := by
  refine (OrderedSet.pairwise_ofList _).sublist (Table.keys_filterMap_sublist ?_ _)
  intro module entry hentry
  split at hentry <;> cases hentry
  rfl

/-- A module imports another one that the package owns. -/
theorem mem_importsFrom_iff {module : CodeText} {package : String} {target : CodeText} :
    target ∈ graph.importsFrom module package ↔
      { source := module, target } ∈ graph.edges ∧ graph.ownerOf? target = some package := by
  rw [importsFrom, List.mem_filter, importsOf, OrderedSet.mem_ofList, List.mem_map, beq_iff_eq]
  refine and_congr_left fun _ => ?_
  constructor
  · rintro ⟨⟨source, target⟩, hedge, rfl⟩
    rw [List.mem_filter, beq_iff_eq] at hedge
    obtain ⟨hedge, rfl⟩ := hedge
    exact hedge
  · intro hedge
    refine ⟨{ source := module, target }, ?_, rfl⟩
    rw [List.mem_filter, beq_iff_eq]
    exact ⟨hedge, rfl⟩

/-- A package is used if it is another one and a module of the first imports one of its modules. -/
theorem mem_usedBy_iff {package name : String} :
    name ∈ graph.usedBy package ↔ name ≠ canonicalName package ∧
      ∃ module ∈ graph.modulesOf package, ∃ target,
        { source := module, target } ∈ graph.edges ∧ graph.ownerOf? target = some name := by
  rw [usedBy, OrderedSet.mem_ofList, List.mem_filterMap]
  constructor
  · rintro ⟨⟨module, target⟩, hedge, hname⟩
    rw [List.mem_filter, List.contains_iff_mem] at hedge
    rw [Option.filter_eq_some_iff, bne_iff_ne] at hname
    exact ⟨hname.2, module, hedge.2, target, hedge.1, hname.1⟩
  · rintro ⟨hne, module, hmodule, target, hedge, hname⟩
    refine ⟨{ source := module, target }, ?_, ?_⟩
    · rw [List.mem_filter, List.contains_iff_mem]
      exact ⟨hedge, hmodule⟩
    · rw [Option.filter_eq_some_iff, bne_iff_ne]
      exact ⟨hname, hne⟩

end ImportGraph

namespace UseTally

/-- Every package, and every module under it, is noted once and for a reason. -/
structure IsTidy (tally : UseTally) : Prop where
  /-- No package is noted twice. -/
  packages : tally.keys.Nodup
  /-- A package that is noted has importing modules. -/
  importers_ne_nil : ∀ package ∈ tally.keys, tally.importers package ≠ []
  /-- No module is noted twice under a package. -/
  importers : ∀ package, (tally.importers package).keys.Nodup
  /-- A module that is noted has targets. -/
  targets_ne_nil : ∀ package, ∀ module ∈ (tally.importers package).keys,
    tally.targets package module ≠ []
  /-- Targets are in ascending order. -/
  targets : ∀ package module, (tally.targets package module).Pairwise (· < ·)

variable {tally : UseTally} {package : String} {module target : CodeText}

/-- The importing modules after an import has been noted. -/
theorem importers_note (name : String) :
    (tally.note package module target).importers name =
      if name = package then
        (tally.importers package).insert module
          (OrderedSet.insert target (tally.targets package module))
      else tally.importers name := by
  rw [importers, note, Table.get?_insert]
  split <;> rfl

/-- The targets after an import has been noted. -/
theorem targets_note (name : String) (source : CodeText) :
    (tally.note package module target).targets name source =
      if name = package ∧ source = module then
        OrderedSet.insert target (tally.targets package module)
      else tally.targets name source := by
  rw [targets, importers_note]
  by_cases hname : name = package
  · rw [if_pos hname, Table.get?_insert]
    by_cases hsource : source = module
    · rw [if_pos hsource, if_pos ⟨hname, hsource⟩]
      rfl
    · rw [if_neg hsource, if_neg (hsource ·.2), hname]
      rfl
  · rw [if_neg hname, if_neg (hname ·.1)]
    rfl

theorem isTidy_nil : IsTidy [] where
  packages := .nil
  importers_ne_nil _ h := absurd h List.not_mem_nil
  importers _ := .nil
  targets_ne_nil _ _ h := absurd h List.not_mem_nil
  targets _ _ := .nil

theorem insert_ne_nil {set : ModuleSet} : OrderedSet.insert target set ≠ [] :=
  List.ne_nil_of_mem (OrderedSet.mem_insert.2 (Or.inl rfl))

/-- Noting an import keeps everything noted once and for a reason. -/
theorem IsTidy.note (h : tally.IsTidy) : (tally.note package module target).IsTidy where
  packages := Table.nodup_keys_insert h.packages _ _
  importers_ne_nil name hname := by
    rw [importers_note]
    split
    · exact List.ne_nil_of_mem (Table.mem_of_get? (Table.get?_insert_self _ module _))
    · next hne => exact h.importers_ne_nil name ((Table.mem_keys_insert.1 hname).resolve_left hne)
  importers name := by
    rw [importers_note]
    split
    · exact Table.nodup_keys_insert (h.importers package) _ _
    · exact h.importers name
  targets_ne_nil name source hsource := by
    rw [targets_note]
    split
    · exact insert_ne_nil
    -- A module that is new under the package is the one with the noted target.
    · next hother =>
      refine h.targets_ne_nil name source ?_
      rw [importers_note] at hsource
      split at hsource
      · next hname =>
        rw [hname]
        exact (Table.mem_keys_insert.1 hsource).resolve_left fun heq => hother ⟨hname, heq⟩
      · exact hsource
  targets name source := by
    rw [targets_note]
    split
    · exact OrderedSet.pairwise_insert target (h.targets package module)
    · exact h.targets name source

namespace IsTidy

variable (h : tally.IsTidy)

include h

/-- A module is noted under a package just if it has targets there. -/
theorem mem_importers_keys_iff :
    module ∈ (tally.importers package).keys ↔ ∃ target, target ∈ tally.targets package module := by
  refine ⟨fun hmodule => List.exists_mem_of_ne_nil _ (h.targets_ne_nil package module hmodule), ?_⟩
  rintro ⟨target, htarget⟩
  by_contra hnone
  rw [← Table.get?_eq_none_iff] at hnone
  rw [UseTally.targets, hnone] at htarget
  exact List.not_mem_nil htarget

/-- A package is noted just if a module has targets under it. -/
theorem mem_keys_iff :
    package ∈ tally.keys ↔ ∃ module target, target ∈ tally.targets package module := by
  constructor
  · intro hpackage
    obtain ⟨⟨module, targets⟩, hentry⟩ :=
      List.exists_mem_of_ne_nil _ (h.importers_ne_nil package hpackage)
    exact ⟨module, h.mem_importers_keys_iff.1 (Table.mem_keys.2 ⟨targets, hentry⟩)⟩
  · rintro ⟨module, target, htarget⟩
    by_contra hnone
    rw [← Table.get?_eq_none_iff] at hnone
    rw [UseTally.targets, UseTally.importers, hnone] at htarget
    exact List.not_mem_nil htarget

/-- The entries under a package are its modules with their targets. -/
theorem mem_importers_iff {targets : ModuleSet} :
    (module, targets) ∈ tally.importers package ↔
      targets = tally.targets package module ∧ targets ≠ [] := by
  rw [← Table.get?_eq_some_iff (h.importers package), UseTally.targets]
  constructor
  · intro hget
    have hmodule := Table.mem_keys.2 ⟨targets, Table.mem_of_get? hget⟩
    have hne := h.targets_ne_nil package module hmodule
    rw [UseTally.targets, hget] at hne
    rw [hget]
    exact ⟨rfl, hne⟩
  · rintro ⟨rfl, hne⟩
    cases hget : (tally.importers package).get? module with
    | none =>
      rw [hget] at hne
      exact absurd rfl hne
    | some held => rfl

end IsTidy

end UseTally

namespace ImportGraph

variable (graph : ImportGraph) {package : String} {modules : ModuleSet}

/-- An import leads from one of the modules to another package, which has this name. -/
def LeadsTo (package : String) (modules : ModuleSet) (edge : Edge) (name : String) : Prop :=
  edge.source ∈ modules ∧ graph.ownerOf? edge.target = some name ∧ name ≠ package

/-- An import is noted if it leads to another package, and else nothing changes. -/
theorem noteEdge_cases (package : String) (modules : ModuleSet) (tally : UseTally) (edge : Edge) :
    (∃ name, graph.LeadsTo package modules edge name ∧
      graph.noteEdge package modules tally edge = tally.note name edge.source edge.target) ∨
    (∀ name, ¬ graph.LeadsTo package modules edge name) ∧
      graph.noteEdge package modules tally edge = tally := by
  rw [noteEdge]
  split
  · next hsource =>
    rw [List.contains_iff_mem] at hsource
    -- The import starts in the package; it leads on if its target has another owner.
    split
    · next hnone =>
      refine Or.inr ⟨fun name hleads => ?_, rfl⟩
      rw [hleads.2.1] at hnone
      cases hnone
    · next owner howner =>
      split
      · next hself =>
        refine Or.inr ⟨fun name hleads => hleads.2.2 ?_, rfl⟩
        rw [← hself]
        exact Option.some.inj (hleads.2.1.symm.trans howner)
      · next hother => exact Or.inl ⟨owner, ⟨hsource, howner, hother⟩, rfl⟩
  · next hsource =>
    refine Or.inr ⟨fun name hleads => hsource ?_, rfl⟩
    exact List.contains_iff_mem.2 hleads.1

/-- Going on to the next import keeps everything noted once and for a reason. -/
theorem isTidy_noteEdge {tally : UseTally} (h : tally.IsTidy) (edge : Edge) :
    (graph.noteEdge package modules tally edge).IsTidy := by
  rcases graph.noteEdge_cases package modules tally edge with ⟨name, -, heq⟩ | ⟨-, heq⟩
  · rw [heq]
    exact h.note
  · rw [heq]
    exact h

/-- The next import adds its target under the package that it leads to, and nothing else. -/
theorem mem_targets_noteEdge {tally : UseTally} {edge : Edge} {name : String}
    {module target : CodeText} :
    target ∈ (graph.noteEdge package modules tally edge).targets name module ↔
      target ∈ tally.targets name module ∨
        edge = { source := module, target } ∧ graph.LeadsTo package modules edge name := by
  rcases graph.noteEdge_cases package modules tally edge with ⟨owner, hleads, heq⟩ | ⟨hnone, heq⟩
  · rw [heq, UseTally.targets_note]
    -- An import leads to one package only, so nothing is added under others.
    have hname (other : String) (h : graph.LeadsTo package modules edge other) : other = owner :=
      Option.some.inj (h.2.1.symm.trans hleads.2.1)
    split
    · next hsame =>
      obtain ⟨rfl, rfl⟩ := hsame
      rw [OrderedSet.mem_insert, or_comm]
      refine or_congr_right ⟨?_, ?_⟩
      · rintro rfl
        exact ⟨rfl, hleads⟩
      · rintro ⟨hedge, -⟩
        rw [hedge]
    · next hother =>
      refine (or_iff_left ?_).symm
      rintro ⟨rfl, hother'⟩
      exact hother ⟨hname name hother', rfl⟩
  · rw [heq]
    exact (or_iff_left fun h => hnone name h.2).symm

/-- Going through imports keeps everything noted once and for a reason. -/
theorem isTidy_foldl {tally : UseTally} (h : tally.IsTidy) (edges : List Edge) :
    (edges.foldl (graph.noteEdge package modules) tally).IsTidy := by
  induction edges generalizing tally with
  | nil => exact h
  | cons edge rest ih => exact ih (graph.isTidy_noteEdge h edge)

/-- Going through imports adds the targets of those that lead to other packages. -/
theorem mem_targets_foldl {tally : UseTally} {edges : List Edge} {name : String}
    {module target : CodeText} :
    target ∈ (edges.foldl (graph.noteEdge package modules) tally).targets name module ↔
      target ∈ tally.targets name module ∨
        { source := module, target } ∈ edges ∧
          graph.LeadsTo package modules { source := module, target } name := by
  induction edges generalizing tally with
  | nil => simp
  | cons edge rest ih =>
    rw [List.foldl_cons, ih, graph.mem_targets_noteEdge, List.mem_cons, or_assoc, or_and_right]
    refine or_congr_right (or_congr_left ?_)
    constructor
    · rintro ⟨rfl, hleads⟩
      exact ⟨rfl, hleads⟩
    · rintro ⟨rfl, hleads⟩
      exact ⟨rfl, hleads⟩

theorem isTidy_tally (package : String) : (graph.tally package).IsTidy :=
  graph.isTidy_foldl UseTally.isTidy_nil graph.edges

/-- A target is noted just if the module is one of the package's own and imports it from another
package. -/
theorem mem_targets_tally {name : String} {module target : CodeText} :
    target ∈ (graph.tally package).targets name module ↔
      name ≠ canonicalName package ∧ module ∈ graph.modulesOf package ∧
        target ∈ graph.importsFrom module name := by
  have hnone : target ∉ UseTally.targets [] name module := List.not_mem_nil
  rw [tally, graph.mem_targets_foldl, or_iff_right hnone, mem_importsFrom_iff, LeadsTo]
  tauto

/-- The packages that are noted are those that the package uses. -/
theorem ofList_keys_tally (package : String) :
    OrderedSet.ofList (graph.tally package).keys = graph.usedBy package := by
  refine (OrderedSet.pairwise_ofList _).eq_of_mem_iff (graph.pairwise_usedBy package) fun name => ?_
  rw [OrderedSet.mem_ofList, (graph.isTidy_tally package).mem_keys_iff, mem_usedBy_iff]
  simp only [graph.mem_targets_tally, mem_importsFrom_iff]
  constructor
  · rintro ⟨module, target, hne, hmodule, himports⟩
    exact ⟨hne, module, hmodule, target, himports⟩
  · rintro ⟨hne, module, hmodule, target, himports⟩
    exact ⟨module, target, hne, hmodule, himports⟩

/-- What is noted about another package, in order, are the uses of it. -/
theorem sorted_importers_tally {name : String} (hname : name ≠ canonicalName package) :
    ((graph.tally package).importers name).sorted = graph.usesOf package name := by
  have htidy := graph.isTidy_tally package
  -- Both sides have ascending keys, so it is enough to compare their entries.
  refine Table.eq_of_mem_iff (Table.pairwise_keys_sorted (htidy.importers name))
    (graph.pairwise_keys_usesOf package name) fun entry => ?_
  obtain ⟨module, targets⟩ := entry
  rw [Table.mem_sorted, htidy.mem_importers_iff, mem_usesOf]
  have himports (h : module ∈ graph.modulesOf package) :
      (graph.tally package).targets name module = graph.importsFrom module name := by
    refine (htidy.targets name module).eq_of_mem_iff (graph.pairwise_importsFrom module name)
      fun target => ?_
    rw [graph.mem_targets_tally, and_iff_right hname, and_iff_right h]
  constructor
  · rintro ⟨rfl, hne⟩
    obtain ⟨target, htarget⟩ := List.exists_mem_of_ne_nil _ hne
    have hmodule := (graph.mem_targets_tally.1 htarget).2.1
    exact ⟨hmodule, himports hmodule, hne⟩
  · rintro ⟨hmodule, rfl, hne⟩
    exact ⟨(himports hmodule).symm, hne⟩

/-- An audit finds out which declared packages are not used, and the uses of those that are used and
not declared. -/
theorem usage_eq (package : String) (declared : List String) :
    graph.usage package declared =
      { unused :=
          OrderedSet.diff (OrderedSet.ofList (declared.map canonicalName)) (graph.usedBy package)
        undeclared :=
          (OrderedSet.diff (graph.usedBy package)
            (OrderedSet.ofList (declared.map canonicalName))).map
              fun name => (name, graph.usesOf package name) } := by
  have hother {name : String} (h : name ∈ graph.usedBy package) : name ≠ canonicalName package :=
    (graph.mem_usedBy_iff.1 h).1
  rw [usage, ofList_keys_tally, UsageReport.mk.injEq]
  refine ⟨rfl, ?_⟩
  -- The package itself is not among those that it uses, so leaving it out changes nothing.
  have hself (names : NameSet) : OrderedSet.diff
      (OrderedSet.diff (graph.usedBy package) names) [canonicalName package] =
        OrderedSet.diff (graph.usedBy package) names := by
    refine List.filter_eq_self.2 fun name hname => ?_
    have hne := hother (OrderedSet.mem_diff.1 hname).1
    simpa using hne
  rw [hself]
  refine List.map_congr_left fun name hname => ?_
  rw [graph.sorted_importers_tally (hother (OrderedSet.mem_diff.1 hname).1)]

end ImportGraph

end BuildAudit
