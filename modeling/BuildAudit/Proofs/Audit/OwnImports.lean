import BuildAudit.Proofs.Audit.Advice
import BuildAudit.Proofs.Audit.Exact

/-!
# Only the package's own imports count

Two views agree about a package if it owns the same modules in both, and these import the same
modules of the same packages. Nothing else in a graph has a say in what is reported about the
package: graphs that represent views which agree about it have the same report
(`usage_eq_of_agrees`), down to the order of every list. So what other packages import is free to
change, and so is the order in which an object lists modules and imports
(`diagnosed_eq_of_agrees`).
-/

namespace BuildAudit

/-- A package owns the same modules in two views, and in both of them these import the same modules
of the same packages. -/
structure ImportView.Agrees (view other : ImportView) (package : String) : Prop where
  /-- The package owns the same modules. -/
  owns_iff : ∀ module, view.owns package module ↔ other.owns package module
  /-- Its modules import the same modules that are owned, from the same owners. -/
  imports_iff : ∀ module, view.owns package module → ∀ target name,
    view.imports module target ∧ view.owns name target ↔
      other.imports module target ∧ other.owns name target

/-- Packages use the same packages in views that agree about them. -/
theorem ImportView.Agrees.uses_iff {view other : ImportView} {package : String}
    (h : view.Agrees other package) (name : String) :
    view.Uses package name ↔ other.Uses package name := by
  refine and_congr_right fun _ => exists_congr fun module => exists_congr fun target => ?_
  constructor
  · rintro ⟨howns, himports⟩
    exact ⟨(h.owns_iff module).1 howns, (h.imports_iff module howns target name).1 himports⟩
  · rintro ⟨howns, himports⟩
    have hmine := (h.owns_iff module).2 howns
    exact ⟨hmine, (h.imports_iff module hmine target name).2 himports⟩

namespace ImportGraph

section Agrees

variable {left right : ImportGraph} {view other : ImportView} {package : String}
variable (hleft : left.Represents view) (hright : right.Represents other)
variable (hagrees : view.Agrees other (canonicalName package))

include hleft hright hagrees

theorem modulesOf_eq_of_agrees : left.modulesOf package = right.modulesOf package := by
  refine (OrderedSet.pairwise_ofList _).eq_of_mem_iff (OrderedSet.pairwise_ofList _)
    fun module => ?_
  exact (hleft.mem_modulesOf.trans (hagrees.owns_iff module)).trans hright.mem_modulesOf.symm

theorem usedBy_eq_of_agrees : left.usedBy package = right.usedBy package := by
  refine (left.pairwise_usedBy _).eq_of_mem_iff (right.pairwise_usedBy _) fun name => ?_
  exact (hleft.mem_usedBy.trans (hagrees.uses_iff name)).trans hright.mem_usedBy.symm

/-- Only a module of the package itself need import the same. -/
theorem importsFrom_eq_of_agrees {module : CodeText} (hmodule : module ∈ left.modulesOf package)
    (name : String) : left.importsFrom module name = right.importsFrom module name := by
  rw [hleft.mem_modulesOf] at hmodule
  have hother := (hagrees.owns_iff module).1 hmodule
  refine (left.pairwise_importsFrom module name).eq_of_mem_iff
    (right.pairwise_importsFrom module name) fun target => ?_
  rw [hleft.mem_importsFrom ⟨_, hmodule⟩, hright.mem_importsFrom ⟨_, hother⟩]
  exact hagrees.imports_iff module hmodule target name

theorem usesOf_eq_of_agrees (name : String) :
    left.usesOf package name = right.usesOf package name := by
  rw [usesOf, usesOf, ← modulesOf_eq_of_agrees hleft hright hagrees]
  refine List.filterMap_congr fun module hmodule => ?_
  rw [importsFrom_eq_of_agrees hleft hright hagrees hmodule]

/-- The report about a package depends on its own imports and on the set of declared names. -/
theorem usage_eq_of_agrees {declared listed : List String}
    (hdeclared : declaredSet declared = declaredSet listed) :
    left.usage package declared = right.usage package listed := by
  have huses : left.usesOf package = right.usesOf package :=
    funext (usesOf_eq_of_agrees hleft hright hagrees)
  rw [declaredSet, declaredSet] at hdeclared
  rw [usage_eq, usage_eq, hdeclared, usedBy_eq_of_agrees hleft hright hagrees, huses]

end Agrees

end ImportGraph

/-- Names in any order and spelling make the same set. -/
theorem declaredSet_eq_of_mem_iff {declared listed : List String}
    (h : ∀ name, name ∈ declared.map canonicalName ↔ name ∈ listed.map canonicalName) :
    declaredSet declared = declaredSet listed := by
  refine (OrderedSet.pairwise_ofList _).eq_of_mem_iff (OrderedSet.pairwise_ofList _) fun name => ?_
  simp only [declaredSet, OrderedSet.mem_ofList, h]

/-- Two values describe a module with the same path and the same imports, which may come in any
order and number. -/
def SameModule (value other : JsonValue) : Prop :=
  ∃ entry listed : ModuleEntry, entry.Describes value ∧ listed.Describes other ∧
    entry.path = listed.path ∧ ∀ target, target ∈ entry.imports ↔ target ∈ listed.imports

theorem SameModule.symm {value listed : JsonValue} (h : SameModule value listed) :
    SameModule listed value := by
  obtain ⟨entry, other, hentry, hother, hpath, himports⟩ := h
  exact ⟨other, entry, hother, hentry, hpath.symm, fun target => (himports target).symm⟩

/-- Two objects list the same modules in some order, each with the same path and imports. -/
structure Rearranges (entries other : JsonObject) : Prop where
  /-- The keys are the same, in some order. -/
  keys_perm : entries.keys.Perm other.keys
  /-- The values of a key describe the same module. -/
  same : ∀ module value listed, (module, value) ∈ entries → (module, listed) ∈ other →
    SameModule value listed

namespace Rearranges

variable {entries other : JsonObject}

theorem symm (h : Rearranges entries other) : Rearranges other entries where
  keys_perm := h.keys_perm.symm
  same module value listed hvalue hlisted := (h.same module listed value hlisted hvalue).symm

variable (h : Rearranges entries other)

include h

/-- The value of a key describes the same module as a value of the other object. -/
theorem exists_same {module : CodeText} {value : JsonValue} (hvalue : (module, value) ∈ entries) :
    ∃ listed, (module, listed) ∈ other ∧ SameModule value listed := by
  have hkey := h.keys_perm.mem_iff.1 (Table.mem_keys.2 ⟨value, hvalue⟩)
  obtain ⟨listed, hlisted⟩ := Table.mem_keys.1 hkey
  exact ⟨listed, hlisted, h.same module value listed hvalue hlisted⟩

theorem isModuleListing : IsModuleListing entries := by
  intro module value hvalue
  obtain ⟨-, -, entry, -, hentry, -⟩ := h.exists_same hvalue
  exact ⟨entry, hentry⟩

theorem exists_listsModule {module : CodeText} {entry : ModuleEntry}
    (hlists : ListsModule entries module entry) :
    ∃ listed, ListsModule other module listed ∧ entry.path = listed.path ∧
      ∀ target, target ∈ entry.imports ↔ target ∈ listed.imports := by
  obtain ⟨value, hvalue, hdescribes⟩ := hlists
  obtain ⟨held, hheld, entry', listed, hentry, hlisted, hsame⟩ := h.exists_same hvalue
  obtain rfl := hdescribes.unique hentry
  exact ⟨listed, ⟨held, hheld, hlisted⟩, hsame⟩

/-- A module that one of the objects gives to a package is given to it by the other one. -/
theorem owns {ownership : Ownership} {name : String} {module : CodeText}
    (howns : (listing ownership entries).owns name module) :
    (listing ownership other).owns name module := by
  obtain ⟨entry, hlists, howner⟩ := howns
  obtain ⟨listed, hlisted, hpath, -⟩ := h.exists_listsModule hlists
  exact ⟨listed, hlisted, hpath ▸ howner⟩

theorem imports {ownership : Ownership} {module target : CodeText}
    (himports : (listing ownership entries).imports module target) :
    (listing ownership other).imports module target := by
  obtain ⟨entry, hlists, htarget⟩ := himports
  obtain ⟨listed, hlisted, -, hmem⟩ := h.exists_listsModule hlists
  exact ⟨listed, hlisted, (hmem target).1 htarget⟩

/-- Objects of the same modules agree about every package. -/
theorem agrees (ownership : Ownership) (package : String) :
    (listing ownership entries).Agrees (listing ownership other) package where
  owns_iff _ := ⟨h.owns, h.symm.owns⟩
  imports_iff _ _ _ _ := and_congr ⟨h.imports, h.symm.imports⟩ ⟨h.owns, h.symm.owns⟩

end Rearranges

/-- The diagnostics about a package that come of an object of modules. -/
def diagnosed (ownership : Ownership) (entries : JsonObject) (package installCommand : String)
    (declared : List String) : Except GraphCause (List Diagnostic) :=
  (ImportGraph.ofValue ownership (.table entries)).2.map
    (·.diagnose package installCommand declared)

/-- Objects that agree about a package lead to the same diagnostics about it. -/
theorem exists_diagnosed {ownership : Ownership} {entries other : JsonObject}
    (hkeys : entries.keys.Nodup) (hkeys' : other.keys.Nodup) (hentries : IsModuleListing entries)
    (hother : IsModuleListing other) {package : String}
    (hagrees : (listing ownership entries).Agrees (listing ownership other)
      (canonicalName package))
    (installCommand : String) {declared listed : List String}
    (hdeclared : declaredSet declared = declaredSet listed) :
    ∃ diagnostics,
      diagnosed ownership entries package installCommand declared = .ok diagnostics ∧
      diagnosed ownership other package installCommand listed = .ok diagnostics := by
  obtain ⟨left, hleft, hrepresents⟩ := ImportGraph.exists_ofValue ownership hkeys hentries
  obtain ⟨right, hright, hrepresents'⟩ := ImportGraph.exists_ofValue ownership hkeys' hother
  have husage := ImportGraph.usage_eq_of_agrees hrepresents hrepresents' hagrees hdeclared
  refine ⟨left.diagnose package installCommand declared, by rw [diagnosed, hleft]; rfl, ?_⟩
  rw [diagnosed, hright, ImportGraph.diagnose, husage]
  rfl

/-- What is reported about a package depends only on its own imports. Objects that agree about the
package lead to the same diagnostics, however the set of declared names is written down. So do
objects that list the same modules and imports in another order. -/
theorem diagnosed_eq_of_agrees (ownership : Ownership) (package installCommand : String)
    {entries other : JsonObject} (hkeys : entries.keys.Nodup) (hkeys' : other.keys.Nodup)
    {declared listed : List String}
    (hdeclared : ∀ name, name ∈ declared.map canonicalName ↔ name ∈ listed.map canonicalName)
    (h : Rearranges entries other ∨
      IsModuleListing entries ∧ IsModuleListing other ∧
        (listing ownership entries).Agrees (listing ownership other) (canonicalName package)) :
    ∃ diagnostics,
      diagnosed ownership entries package installCommand declared = .ok diagnostics ∧
      diagnosed ownership other package installCommand listed = .ok diagnostics := by
  have hset := declaredSet_eq_of_mem_iff hdeclared
  rcases h with h | ⟨hentries, hother, hagrees⟩
  · exact exists_diagnosed hkeys hkeys' h.isModuleListing h.symm.isModuleListing
      (h.agrees ownership _) installCommand hset
  · exact exists_diagnosed hkeys hkeys' hentries hother hagrees installCommand hset

/-- A value that describes a module. -/
def ModuleEntry.toValue (entry : ModuleEntry) : JsonValue :=
  .table [("path", .string entry.path), ("depends", .list (entry.imports.map .string))]

theorem ModuleEntry.describes_toValue (entry : ModuleEntry) : entry.Describes entry.toValue :=
  ⟨_, rfl, rfl, Or.inl rfl⟩

/-- The object that lists modules. -/
def objectOf (modules : Table ModuleEntry CodeText) : JsonObject :=
  modules.map fun module => (module.1, module.2.toValue)

theorem isModuleListing_objectOf (modules : Table ModuleEntry CodeText) :
    IsModuleListing (objectOf modules) := by
  intro module value hmem
  obtain ⟨⟨name, entry⟩, -, heq⟩ := List.mem_map.1 hmem
  cases heq
  exact ⟨entry, entry.describes_toValue⟩

@[simp]
theorem listsModule_objectOf {modules : Table ModuleEntry CodeText} {module : CodeText}
    {entry : ModuleEntry} :
    ListsModule (objectOf modules) module entry ↔ (module, entry) ∈ modules := by
  constructor
  · rintro ⟨value, hmem, hdescribes⟩
    obtain ⟨⟨name, held⟩, hheld, heq⟩ := List.mem_map.1 hmem
    cases heq
    rwa [hdescribes.unique held.describes_toValue]
  · intro hmem
    exact ⟨_, List.mem_map.2 ⟨_, hmem, rfl⟩, entry.describes_toValue⟩

/-- A module of `app` imports one of each external package. -/
def importingBoth : Table ModuleEntry CodeText :=
  [("App", { path := "app/src/App.purs", imports := ["Lib.B", "Lib.A"] }),
    ("Lib.A", { path := ".pedant/p/lib-a/src/Lib/A.purs", imports := [] }),
    ("Lib.B", { path := ".pedant/p/lib-b/src/Lib/B.purs", imports := ["Lib.A"] })]

/-- The module of `app` imports the same, in another order and with a module that nobody owns. The
imports of the other packages have changed. -/
def importingAgain : Table ModuleEntry CodeText :=
  [("Lib.B", { path := ".pedant/p/lib-b/src/Lib/B.purs", imports := [] }),
    ("App", { path := "./app/src/App.purs", imports := ["Lib.A", "Prim", "Lib.B", "Lib.A"] }),
    ("Lib.A", { path := ".pedant/p/lib-a/src/Lib/A.purs", imports := ["Lib.B"] })]

theorem agrees_importingAgain :
    (listing .paired (objectOf importingBoth)).Agrees
      (listing .paired (objectOf importingAgain)) "app" := by
  have happ : Ownership.paired.ownerOf? "app/src/App.purs" = some "app" := by decide +kernel
  have hdotted : Ownership.paired.ownerOf? "./app/src/App.purs" = some "app" := by decide +kernel
  have ha : Ownership.paired.ownerOf? ".pedant/p/lib-a/src/Lib/A.purs" = some "lib-a" := by
    decide +kernel
  have hb : Ownership.paired.ownerOf? ".pedant/p/lib-b/src/Lib/B.purs" = some "lib-b" := by
    decide +kernel
  constructor
  case owns_iff =>
    simp [listing, importingBoth, importingAgain, ← Ownership.ownerOf?_eq_some_iff,
      or_and_right, exists_or, happ, hdotted, ha, hb]
  case imports_iff =>
    intro module howns target name
    -- Only `App` is owned by `app`, so the imports are those of this one module.
    obtain rfl : module = "App" := by
      simpa [listing, importingBoth, ← Ownership.ownerOf?_eq_some_iff, or_and_right, exists_or,
        happ, ha, hb] using howns
    simp only [listing, importingBoth, importingAgain, listsModule_objectOf, List.mem_cons,
      Prod.mk.injEq, List.not_mem_nil, or_false, ← Ownership.ownerOf?_eq_some_iff, or_and_right,
      exists_or, ↓existsAndEq, and_true, happ, hdotted, ha, hb, Option.some.injEq, and_false,
      false_or, true_and, CodeText.ofString_inj, String.reduceEq, false_and]
    -- What is left is about the names of three modules.
    grind

/-- The diagnostics about `app` are the same for these two objects. -/
theorem diagnosed_eq_of_agrees_importingAgain :
    ∃ diagnostics,
      diagnosed .paired (objectOf importingBoth) " App" "spago install" ["Lib-B", "app"] =
        .ok diagnostics ∧
      diagnosed .paired (objectOf importingAgain) " App" "spago install"
        ["APP", "lib-b ", "Lib-B"] = .ok diagnostics ∧
      diagnostics.length = 2 := by
  have hdeclared (name : String) : name ∈ ["Lib-B", "app"].map canonicalName ↔
      name ∈ ["APP", "lib-b ", "Lib-B"].map canonicalName := by
    rw [show ["Lib-B", "app"].map canonicalName = ["lib-b", "app"] by decide +kernel,
      show ["APP", "lib-b ", "Lib-B"].map canonicalName = ["app", "lib-b", "lib-b"] by
        decide +kernel]
    grind
  have hname : canonicalName " App" = "app" := by decide +kernel
  have hkeys : (objectOf importingBoth).keys.Nodup := by decide
  have hkeys' : (objectOf importingAgain).keys.Nodup := by decide
  obtain ⟨diagnostics, hboth, hagain⟩ :=
    diagnosed_eq_of_agrees .paired " App" "spago install" hkeys hkeys' hdeclared
      (Or.inr ⟨isModuleListing_objectOf importingBoth, isModuleListing_objectOf importingAgain,
        hname ▸ agrees_importingAgain⟩)
  have hlength : (diagnosed .paired (objectOf importingBoth) " App" "spago install"
      ["Lib-B", "app"]).toOption.map List.length = some 2 := by
    decide +kernel
  rw [hboth] at hlength
  exact ⟨diagnostics, hboth, hagain, Option.some.inj hlength⟩

end BuildAudit
