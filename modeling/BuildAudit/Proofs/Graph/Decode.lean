import BuildAudit.Graph.Decode
import BuildAudit.Proofs.Checks
import BuildAudit.Proofs.Graph.Basic
import BuildAudit.Proofs.Ownership
import BuildAudit.Proofs.Usage

/-!
# Import graphs of objects

An object of modules is well formed if each of its values describes a module: a table with a path
and, unless it imports nothing, a list of imports. Such an object says who owns its modules and what
they import (`listing`), the modules and targets without an owner included. The graph that is read
from it keeps the owners and just the imports between owned modules, so it represents what the
object says (`exists_ofValue`).
-/

namespace BuildAudit

namespace Value

variable {τ : Type}

/-- A value is read as a text just if it is one. -/
theorem asString?_eq_some_iff {value : Value τ} {text : τ} :
    value.asString? = some text ↔ value = .string text := by
  cases value <;> simp [asString?]

/-- A value is a list of texts just if it is read as one. -/
theorem asStrings?_eq_some_iff {value : Value τ} {texts : List τ} :
    value.asStrings? = some texts ↔ value = .list (texts.map .string) := by
  unfold asStrings?
  split
  · rw [mapM_eq_some_iff fun _ _ => asString?_eq_some_iff, list.injEq]
  · next hnot =>
    constructor
    · intro h
      cases h
    · rintro rfl
      exact absurd rfl (hnot _)

/-- A list of texts that may be left out is read as the texts, or as none. -/
theorem asStrings?_getD_eq_some_iff {held? : Option (Value τ)} {texts : List τ} :
    (held?.getD (.list [])).asStrings? = some texts ↔
      held? = some (.list (texts.map .string)) ∨ held? = none ∧ texts = [] := by
  rw [asStrings?_eq_some_iff]
  cases held? with
  | none => simp
  | some held => simp

end Value

/-- A value describes a module: a table with the path and the list of imports, which is left out if
there are none. -/
def ModuleEntry.Describes (entry : ModuleEntry) (value : JsonValue) : Prop :=
  ∃ fields : JsonObject, value = .table fields ∧
    fields.get? "path" = some (.string entry.path) ∧
    (fields.get? "depends" = some (.list (entry.imports.map .string)) ∨
      fields.get? "depends" = none ∧ entry.imports = [])

/-- The entry of a module is read just if the value describes it. -/
theorem readEntry_eq_ok_iff {module : CodeText} {value : JsonValue} {entry : ModuleEntry} :
    readEntry module value = .ok entry ↔ entry.Describes value := by
  constructor
  · intro h
    -- One case for each check of the reader; the last is the one that passes all of them.
    unfold readEntry at h
    split at h
    · cases h
    · next fields hfields =>
      split at h
      · cases h
      · next path hpath =>
        split at h
        · cases h
        · next imports hread =>
          cases h
          cases value <;> cases hfields
          obtain ⟨held, hheld, htext⟩ := Option.bind_eq_some_iff.1 hpath
          cases held <;> cases htext
          exact ⟨fields, rfl, hheld, Value.asStrings?_getD_eq_some_iff.1 hread⟩
  · rintro ⟨fields, rfl, hpath, hdepends⟩
    rw [readEntry, Value.asTable?]
    dsimp only
    rw [hpath, Option.bind_some, Value.asString?]
    dsimp only
    rw [Value.asStrings?_getD_eq_some_iff.2 hdepends]

/-- A value describes at most one module. -/
theorem ModuleEntry.Describes.unique {entry other : ModuleEntry} {value : JsonValue}
    (h : entry.Describes value) (h' : other.Describes value) : entry = other := by
  have hread : readEntry "" value = .ok entry := readEntry_eq_ok_iff.2 h
  rw [readEntry_eq_ok_iff.2 h'] at hread
  exact (Except.ok.inj hread).symm

/-- An object lists a module with an entry. -/
def ListsModule (entries : JsonObject) (module : CodeText) (entry : ModuleEntry) : Prop :=
  ∃ value, (module, value) ∈ entries ∧ entry.Describes value

/-- Each value of an object describes a module. -/
def IsModuleListing (entries : JsonObject) : Prop :=
  ∀ module value, (module, value) ∈ entries → ∃ entry : ModuleEntry, entry.Describes value

/-- Reading the entries of an object tells whether each of them describes a module. -/
theorem isModuleListing_iff {entries : JsonObject} :
    IsModuleListing entries ↔
      ∀ entry ∈ entries, (readEntry entry.1 entry.2).isOk = true := by
  constructor
  · rintro h ⟨module, value⟩ hmem
    obtain ⟨entry, hentry⟩ := h module value hmem
    rw [readEntry_eq_ok_iff.2 hentry]
    rfl
  · intro h module value hmem
    have hok := h (module, value) hmem
    rcases hread : readEntry module value with cause | entry
    · rw [hread] at hok
      cases hok
    · exact ⟨entry, readEntry_eq_ok_iff.1 hread⟩

instance (entries : JsonObject) : Decidable (IsModuleListing entries) :=
  decidable_of_iff _ isModuleListing_iff.symm

/-- What an object of modules says: a module belongs to the package that owns its path and imports
what its entry lists. -/
def listing (ownership : Ownership) (entries : JsonObject) : ImportView where
  owns name module :=
    ∃ entry, ListsModule entries module entry ∧ ownership.IsOwner entry.path name
  imports module target := ∃ entry, ListsModule entries module entry ∧ target ∈ entry.imports

/-- An object with distinct keys lists a module once. -/
theorem ListsModule.unique {entries : JsonObject} (hkeys : entries.keys.Nodup) {module : CodeText}
    {entry other : ModuleEntry} (h : ListsModule entries module entry)
    (h' : ListsModule entries module other) : entry = other := by
  obtain ⟨value, hmem, hdescribes⟩ := h
  obtain ⟨value', hmem', hdescribes'⟩ := h'
  have hget := (Table.get?_eq_some_iff hkeys).2 hmem
  rw [(Table.get?_eq_some_iff hkeys).2 hmem'] at hget
  cases hget
  exact hdescribes.unique hdescribes'

/-- A longer object lists the module of its first value and those of the others. -/
theorem listsModule_cons {module name : CodeText} {value : JsonValue} {rest : JsonObject}
    {entry first : ModuleEntry} (hfirst : first.Describes value) :
    ListsModule ((name, value) :: rest) module entry ↔
      module = name ∧ entry = first ∨ ListsModule rest module entry := by
  constructor
  · rintro ⟨held, hmem, hdescribes⟩
    rcases List.mem_cons.1 hmem with heq | hmem
    · cases heq
      exact Or.inl ⟨rfl, hdescribes.unique hfirst⟩
    · exact Or.inr ⟨held, hmem, hdescribes⟩
  · rintro (⟨rfl, rfl⟩ | ⟨held, hmem, hdescribes⟩)
    · exact ⟨value, .head _, hfirst⟩
    · exact ⟨held, .tail _ hmem, hdescribes⟩

/-- The modules that are kept of a well-formed object are those that it lists with a path that has
an owner. -/
theorem exists_readModules (ownership : Ownership) {entries : JsonObject}
    (h : IsModuleListing entries) :
    ∃ modules, (readModules ownership entries).2 = .ok modules ∧
      (modules.map (·.name)).Sublist entries.keys ∧
      ∀ module owner imports, { name := module, owner, imports } ∈ modules ↔
        ∃ path, ListsModule entries module { path, imports } ∧ ownership.IsOwner path owner := by
  induction entries with
  | nil =>
    refine ⟨[], rfl, .slnil, fun module owner imports => ?_⟩
    constructor
    · intro hmem
      cases hmem
    · rintro ⟨path, ⟨value, hmem, -⟩, -⟩
      cases hmem
  | cons first rest ih =>
    obtain ⟨name, value⟩ := first
    obtain ⟨⟨path, imports⟩, hentry⟩ := h name value (.head _)
    obtain ⟨modules, hread, hnames, hmodules⟩ :=
      ih fun module value hmem => h module value (.tail _ hmem)
    have hfirst : readEntry name value = .ok { path, imports } := readEntry_eq_ok_iff.2 hentry
    rcases hrest : readModules ownership rest with ⟨logs, result⟩
    obtain rfl : result = .ok modules := (congrArg Prod.snd hrest).symm.trans hread
    -- A module without an owner is left out, any other one comes before those of the rest.
    rcases howner : ownership.ownerOf? path with _ | owner
    · refine ⟨modules, ?_, hnames.cons name, fun module owner targets => ?_⟩
      · rw [readModules, hfirst, hrest]
        dsimp only
        rw [howner]
      · have hnone : ¬ ownership.IsOwner path owner := by
          rw [← ownership.ownerOf?_eq_some_iff, howner]
          exact Option.some_ne_none owner ∘ Eq.symm
        simp only [hmodules, listsModule_cons hentry, ModuleEntry.mk.injEq]
        constructor
        · rintro ⟨held, hlists, howns⟩
          exact ⟨held, Or.inr hlists, howns⟩
        · rintro ⟨held, ⟨-, rfl, -⟩ | hlists, howns⟩
          · exact absurd howns hnone
          · exact ⟨held, hlists, howns⟩
    · refine ⟨{ name, owner, imports } :: modules, ?_, hnames.cons_cons name, ?_⟩
      · rw [readModules, hfirst, hrest]
        dsimp only
        rw [howner]
        rfl
      · intro module other targets
        have howns := ownership.ownerOf?_eq_some_iff.1 howner
        simp only [List.mem_cons, OwnedModule.mk.injEq, hmodules, listsModule_cons hentry,
          ModuleEntry.mk.injEq]
        constructor
        · rintro (⟨rfl, rfl, rfl⟩ | ⟨held, hlists, hother⟩)
          · exact ⟨path, Or.inl ⟨rfl, rfl, rfl⟩, howns⟩
          · exact ⟨held, Or.inr hlists, hother⟩
        · rintro ⟨held, ⟨rfl, rfl, rfl⟩ | hlists, hother⟩
          · exact Or.inl ⟨rfl, hother.unique howns, rfl⟩
          · exact Or.inr ⟨held, hlists, hother⟩

namespace ImportGraph

/-- The owners of the modules that a graph is made of are kept. -/
theorem owners_ofModules {modules : List OwnedModule}
    (h : ∀ module ∈ modules, canonicalName module.owner = module.owner) :
    (ofModules modules).owners = modules.map fun module => (module.name, module.owner) := by
  rw [ofModules, restrict]
  dsimp only
  rw [ownersOf, List.map_map]
  refine List.map_congr_left fun module hmodule => ?_
  rw [Function.comp_apply, h module hmodule]

/-- Modules with distinct names have one owner each. -/
theorem nodup_keys_owners_ofModules {modules : List OwnedModule}
    (h : (modules.map (·.name)).Nodup) : (ofModules modules).owners.keys.Nodup := by
  rw [ofModules, keys_owners_restrict, ownersOf, Table.keys, List.map_map]
  exact h

/-- The modules that have owners are those that a graph is made of. -/
theorem hasKey_owners_ofModules (modules : List OwnedModule) (module : CodeText) :
    (ofModules modules).owners.hasKey module = (ownersOf modules).hasKey module := by
  rw [Bool.eq_iff_iff, Table.hasKey_iff, Table.hasKey_iff, ofModules, keys_owners_restrict]

/-- The imports among modules are those that lead to one of them. -/
theorem mem_edgesOf_importsAmong {modules : List OwnedModule} {edge : Edge} :
    edge ∈ edgesOf (importsAmong modules) ↔
      ∃ module ∈ modules, module.name = edge.source ∧ edge.target ∈ module.imports ∧
        (ownersOf modules).hasKey edge.target = true := by
  rw [edgesOf, importsAmong, List.mem_flatMap]
  constructor
  · rintro ⟨_, hentry, hedge⟩
    obtain ⟨module, hmodule, rfl⟩ := List.mem_map.1 hentry
    obtain ⟨target, htarget, rfl⟩ := List.mem_map.1 hedge
    obtain ⟨htarget, hkey⟩ := List.mem_filter.1 htarget
    exact ⟨module, hmodule, rfl, htarget, hkey⟩
  · rintro ⟨module, hmodule, hsource, htarget, hkey⟩
    refine ⟨_, List.mem_map.2 ⟨module, hmodule, rfl⟩, List.mem_map.2 ⟨edge.target, ?_, ?_⟩⟩
    · exact List.mem_filter.2 ⟨htarget, hkey⟩
    · rw [hsource]

/-- The imports of a graph are those of the modules that it is made of, if both ends have owners. -/
theorem mem_edges_ofModules {modules : List OwnedModule} {edge : Edge} :
    edge ∈ (ofModules modules).edges ↔
      (∃ module ∈ modules, module.name = edge.source ∧ edge.target ∈ module.imports) ∧
        edge.isOwned (ofModules modules).owners = true := by
  have hedges : edge ∈ (ofModules modules).edges ↔
      edge ∈ edgesOf (importsAmong modules) ∧
        edge.isOwned (ofModules modules).owners = true := by
    rw [ofModules, restrict, List.mem_filter, OrderedSet.mem_ofList]
  rw [hedges, mem_edgesOf_importsAmong]
  refine and_congr_left fun howned => exists_congr fun module => ?_
  -- The target has an owner, so it is among the modules.
  rw [Edge.isOwned, Bool.and_eq_true, hasKey_owners_ofModules modules edge.target] at howned
  rw [and_iff_left howned.2]

/-- The graph of the modules that are kept of an object represents what the object says. -/
theorem represents_listing {ownership : Ownership} {entries : JsonObject}
    (hkeys : entries.keys.Nodup) {modules : List OwnedModule}
    (hnames : (modules.map (·.name)).Nodup)
    (hmodules : ∀ module owner imports, { name := module, owner, imports } ∈ modules ↔
      ∃ path, ListsModule entries module { path, imports } ∧ ownership.IsOwner path owner) :
    (ofModules modules).Represents (listing ownership entries) := by
  have howners : (ofModules modules).owners =
      modules.map fun module => (module.name, module.owner) := by
    refine owners_ofModules fun module hmodule => ?_
    obtain ⟨path, -, howns⟩ := (hmodules _ _ _).1 hmodule
    exact howns.canonical
  have howner_iff (module : CodeText) (name : String) :
      (ofModules modules).ownerOf? module = some name ↔
        (listing ownership entries).owns name module := by
    rw [ownerOf?, Table.get?_eq_some_iff (nodup_keys_owners_ofModules hnames), howners,
      List.mem_map]
    constructor
    · rintro ⟨kept, hkept, heq⟩
      cases heq
      obtain ⟨path, hlists, howns⟩ := (hmodules _ _ _).1 hkept
      exact ⟨_, hlists, howns⟩
    · rintro ⟨entry, hlists, howns⟩
      exact ⟨_, (hmodules module name entry.imports).2 ⟨entry.path, hlists, howns⟩, rfl⟩
  refine ⟨howner_iff, fun module target => ?_⟩
  rw [mem_edges_ofModules, Edge.isOwned, Bool.and_eq_true, hasKey_owners_iff, hasKey_owners_iff]
  simp only [howner_iff]
  constructor
  · rintro ⟨⟨kept, hkept, rfl, htarget⟩, hends⟩
    obtain ⟨path, hlists, -⟩ := (hmodules _ _ _).1 hkept
    exact ⟨⟨_, hlists, htarget⟩, hends⟩
  -- The entry with the imports and the one with the owner are the same, for the keys are distinct.
  · rintro ⟨⟨entry, hlists, htarget⟩, ⟨name, other, hother, howns⟩, hname⟩
    obtain rfl := hlists.unique hkeys hother
    exact ⟨⟨_, (hmodules module name entry.imports).2 ⟨entry.path, hlists, howns⟩, rfl, htarget⟩,
      ⟨name, entry, hlists, howns⟩, hname⟩

/-- What is read of an object is what is read of its entries. -/
theorem ofValue_table (ownership : Ownership) (entries : JsonObject) :
    (ofValue ownership (.table entries)).2 = (readModules ownership entries).2.map ofModules := by
  rw [ofValue, Value.asTable?]

/-- A well-formed object is read, as the graph of the modules that are kept of it. -/
theorem exists_ofModules (ownership : Ownership) {entries : JsonObject}
    (hkeys : entries.keys.Nodup) (h : IsModuleListing entries) :
    ∃ modules, (readModules ownership entries).2 = .ok modules ∧
      (ofValue ownership (.table entries)).2 = .ok (ofModules modules) ∧
      (ofModules modules).owners.keys.Nodup ∧
      (ofModules modules).Represents (listing ownership entries) := by
  obtain ⟨modules, hread, hsublist, hmodules⟩ := exists_readModules ownership h
  have hnames := hsublist.nodup hkeys
  refine ⟨modules, hread, ?_, nodup_keys_owners_ofModules hnames,
    represents_listing hkeys hnames hmodules⟩
  rw [ofValue_table, hread]
  rfl

/-- A well-formed object is read, as a graph that represents what the object says. -/
theorem exists_ofValue (ownership : Ownership) {entries : JsonObject}
    (hkeys : entries.keys.Nodup) (h : IsModuleListing entries) :
    ∃ graph, (ofValue ownership (.table entries)).2 = .ok graph ∧
      graph.Represents (listing ownership entries) := by
  obtain ⟨modules, -, hgraph, -, hrepresents⟩ := exists_ofModules ownership hkeys h
  exact ⟨ofModules modules, hgraph, hrepresents⟩

end ImportGraph

end BuildAudit
