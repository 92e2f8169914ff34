import BuildAudit.Proofs.Usage

/-!
# What a report says

`ImportView.Reports` says what a report about a package has to list, name by name. It leaves nothing
open: all its lists are ascending, so only one report lists just that (`Reports.unique`), and it is
the one that an audit makes by noting the imports of a graph one after the other
(`reports_iff_eq_usage`). Hence the two parts of a report never overlap, the package itself is never
among the undeclared ones, and there is nothing to complain about just if the package declares
exactly what it uses (`Reports.sound`).
-/

namespace BuildAudit

/-- Only one list enumerates the elements with a property. -/
theorem Enumerates.unique {α : Type} [LT α] [IsStrictTotalOrder α (· < ·)]
    {elements other : List α} {property : α → Prop} (h : Enumerates elements property)
    (h' : Enumerates other property) : elements = other :=
  h.ascending.eq_of_mem_iff h'.ascending fun element =>
    (h.mem_iff element).trans (h'.mem_iff element).symm

/-- Tables with the same distinct keys, and with the same value for each of them, are the same. -/
theorem Table.eq_of_keys_eq {α κ : Type} {left right : Table α κ} (hkeys : left.keys = right.keys)
    (hnodup : left.keys.Nodup)
    (hvalues : ∀ key value other, (key, value) ∈ left → (key, other) ∈ right → value = other) :
    left = right := by
  induction left generalizing right with
  | nil => exact (List.map_eq_nil_iff.1 hkeys.symm).symm
  | cons entry rest ih =>
    obtain ⟨key, value⟩ := entry
    obtain ⟨⟨key', other⟩, more, rfl, hkey, hmore⟩ := List.map_eq_cons_iff.1 hkeys.symm
    obtain rfl : key' = key := hkey
    rw [keys, List.map_cons, List.nodup_cons] at hnodup
    rw [hvalues key' value other (.head _) (.head _),
      ih hmore.symm hnodup.2 fun key value other hleft hright =>
        hvalues key value other (.tail _ hleft) (.tail _ hright)]

/-- What holds of every report about a package that declares names. -/
structure UsageReport.IsSound (report : UsageReport) (view : ImportView) (package : String)
    (declared : List String) : Prop where
  /-- Unused names are declared. -/
  unused_subset : ∀ name ∈ report.unused, name ∈ declared
  /-- No name is in both parts. -/
  disjoint : ∀ name ∈ report.unused, name ∉ report.undeclared.keys
  /-- The package itself is not undeclared. -/
  self_notMem : package ∉ report.undeclared.keys
  /-- A name that is undeclared has an importing module. -/
  importers_ne_nil : ∀ name uses, (name, uses) ∈ report.undeclared → uses ≠ []
  /-- The importing modules are the package's own. -/
  owned : ∀ name uses, (name, uses) ∈ report.undeclared →
    ∀ module ∈ uses.keys, view.owns package module
  /-- An importing module imports something. -/
  targets_ne_nil : ∀ name uses, (name, uses) ∈ report.undeclared →
    ∀ module targets, (module, targets) ∈ uses → targets ≠ []
  /-- There is nothing to complain about just if what is declared is what is used. -/
  isClean_iff : report.isClean = true ↔ ∀ name, name ∈ declared ↔ view.Uses package name

namespace ImportView.Reports

variable {view : ImportView} {package : String} {declared : List String} {report : UsageReport}
variable (h : view.Reports package declared report)

include h

/-- Only one report lists what a report has to list. -/
theorem unique {other : UsageReport} (h' : view.Reports package declared other) :
    report = other := by
  have hundeclared : report.undeclared = other.undeclared := by
    refine Table.eq_of_keys_eq (h.undeclared.unique h'.undeclared) h.undeclared.nodup ?_
    intro name uses uses' hname hname'
    have himporters := h.importers name uses hname
    refine Table.eq_of_keys_eq (himporters.unique (h'.importers name uses' hname'))
      himporters.nodup ?_
    intro module targets targets' hmodule hmodule'
    exact (h.targets name uses hname module targets hmodule).unique
      (h'.targets name uses' hname' module targets' hmodule')
  obtain ⟨unused, undeclared⟩ := report
  obtain ⟨unused', undeclared'⟩ := other
  rw [UsageReport.mk.injEq]
  exact ⟨h.unused.unique h'.unused, hundeclared⟩

/-- An undeclared name has a module of the package under it that imports from it. -/
theorem exists_importer {name : String} {uses : ImportTable}
    (hname : (name, uses) ∈ report.undeclared) : ∃ module, module ∈ uses.keys := by
  obtain ⟨⟨-, module, target, howns, himports⟩, -⟩ :=
    (h.undeclared.mem_iff name).1 (Table.mem_keys.2 ⟨uses, hname⟩)
  exact ⟨module, ((h.importers name uses hname).mem_iff module).2 ⟨howns, target, himports⟩⟩

/-- A report has nothing to complain about just if what is declared is what is used. -/
theorem isClean_iff :
    report.isClean = true ↔ ∀ name, name ∈ declared ↔ view.Uses package name := by
  have hkeys : report.undeclared = [] ↔ report.undeclared.keys = [] := List.map_eq_nil_iff.symm
  rw [UsageReport.isClean, Bool.and_eq_true, List.isEmpty_iff, List.isEmpty_iff, hkeys,
    List.eq_nil_iff_forall_not_mem, List.eq_nil_iff_forall_not_mem]
  constructor
  · rintro ⟨hunused, hundeclared⟩ name
    have hno := mt (h.unused.mem_iff name).2 (hunused name)
    have hno' := mt (h.undeclared.mem_iff name).2 (hundeclared name)
    tauto
  · intro hsame
    constructor
    · intro name hname
      obtain ⟨hdeclared, hnot⟩ := (h.unused.mem_iff name).1 hname
      exact hnot ((hsame name).1 hdeclared)
    · intro name hname
      obtain ⟨huses, hnot⟩ := (h.undeclared.mem_iff name).1 hname
      exact hnot ((hsame name).2 huses)

/-- What follows from what a report lists. -/
theorem sound : report.IsSound view package declared where
  unused_subset name hname := ((h.unused.mem_iff name).1 hname).1
  disjoint name hname hname' :=
    ((h.unused.mem_iff name).1 hname).2 ((h.undeclared.mem_iff name).1 hname').1
  self_notMem hself := ((h.undeclared.mem_iff package).1 hself).1.1 rfl
  importers_ne_nil name uses hname := by
    rintro rfl
    obtain ⟨module, hmodule⟩ := h.exists_importer hname
    exact List.not_mem_nil hmodule
  owned name uses hname module hmodule :=
    (((h.importers name uses hname).mem_iff module).1 hmodule).1
  targets_ne_nil name uses hname module targets hmodule := by
    rintro rfl
    obtain ⟨-, target, htarget⟩ :=
      ((h.importers name uses hname).mem_iff module).1 (Table.mem_keys.2 ⟨[], hmodule⟩)
    exact List.not_mem_nil
      (((h.targets name uses hname module [] hmodule).mem_iff target).2 htarget)
  isClean_iff := h.isClean_iff

end ImportView.Reports

/-- The report of an audit is the only one that lists just the declared names that are not used, and
just the used names that are not declared with all imports that use them. It is sound, whatever the
graph, the package and the declared names are, and however the names are spelled. -/
theorem ImportGraph.reports_iff_eq_usage (graph : ImportGraph) (package : String)
    (declared : List String) :
    (∀ report, graph.view.Reports (canonicalName package) (declared.map canonicalName) report ↔
      report = graph.usage package declared) ∧
    (graph.usage package declared).IsSound graph.view (canonicalName package)
      (declared.map canonicalName) := by
  have hreports := graph.reports_usage graph.represents_view package declared
  refine ⟨fun report => ⟨fun h => h.unique hreports, ?_⟩, hreports.sound⟩
  rintro rfl
  exact hreports

end BuildAudit
