import BuildAudit.Proofs.Graph.Decode
import BuildAudit.Proofs.Json.Reader

/-!
# Reading import graphs from values

A value is read as an import graph just if it is an object without malformed entries, those of
modules that nobody owns included (`readsModules`). The reason of a refusal names the first
malformed entry, whose path is looked at before its imports. The graph that is read has an owner for
each module whose path has one, and the imports from these modules to keys of the object that have
owners too, wherever those keys stand. So both ends of every import that is kept are owned, and the
check of this that a graph is made with never fails (`ofEdges_importsAmong`).
-/

namespace BuildAudit

/-- An entry is malformed: it is no table, its path is no text, or it has imports that are no list
of texts. -/
def IsMalformed : JsonValue → Prop
  | .table fields =>
    (∀ path, Table.get? fields "path" ≠ some (.string path)) ∨
      ∃ held, Table.get? fields "depends" = some held ∧
        ∀ texts : List CodeText, held ≠ .list (texts.map .string)
  | _ => True

/-- What is said about a malformed entry: nothing about its path unless it is a table, and nothing
about its imports unless it has a path. -/
inductive EntryFault (module : CodeText) : JsonValue → GraphCause → Prop where
  /-- The entry is not a table. -/
  | notAnObject {value : JsonValue} (hvalue : ∀ fields, value ≠ .table fields) :
    EntryFault module value (.entryNotAnObject module value.kindName)
  /-- The path is missing or not a text. -/
  | noPath {fields : JsonObject} (hpath : ∀ path, fields.get? "path" ≠ some (.string path)) :
    EntryFault module (.table fields) (.noPath module)
  /-- The imports are not a list of texts. -/
  | badImports {fields : JsonObject} {path : CodeText} {held : JsonValue}
    (hpath : fields.get? "path" = some (.string path)) (hheld : fields.get? "depends" = some held)
    (htexts : ∀ texts : List CodeText, held ≠ .list (texts.map .string)) :
    EntryFault module (.table fields) (.badImports module)

/-- An entry is malformed just if it describes no module. -/
theorem isMalformed_iff {value : JsonValue} :
    IsMalformed value ↔ ∀ entry : ModuleEntry, ¬ entry.Describes value := by
  constructor
  · rintro hmalformed entry ⟨fields, rfl, hpath, hdepends⟩
    rcases hmalformed with hnone | ⟨held, hheld, htexts⟩
    · exact hnone entry.path hpath
    · rcases hdepends with hlist | ⟨hnone, -⟩
      · exact htexts entry.imports (Option.some.inj (hheld.symm.trans hlist))
      · cases hheld.symm.trans hnone
  · intro hnot
    cases value with
    | table fields =>
      by_contra hwell
      rw [IsMalformed, not_or] at hwell
      push Not at hwell
      obtain ⟨⟨path, hpath⟩, hlist⟩ := hwell
      -- Without imports the entry describes a module that imports nothing.
      rcases hdepends : Table.get? fields "depends" with _ | held
      · exact hnot ⟨path, []⟩ ⟨fields, rfl, hpath, Or.inr ⟨hdepends, rfl⟩⟩
      · obtain ⟨texts, rfl⟩ := hlist held hdepends
        exact hnot ⟨path, texts⟩ ⟨fields, rfl, hpath, Or.inl hdepends⟩
    | _ => trivial

/-- An object without malformed entries is one of modules. -/
theorem isModuleListing_of_not_isMalformed {entries : JsonObject}
    (h : ∀ entry ∈ entries, ¬ IsMalformed entry.2) : IsModuleListing entries := by
  intro module value hmem
  have hvalue := h (module, value) hmem
  rw [isMalformed_iff] at hvalue
  push Not at hvalue
  exact hvalue

/-- A reading that fails says what there is to say about the entry. -/
theorem entryFault_of_readEntry {module : CodeText} {value : JsonValue} {cause : GraphCause}
    (h : readEntry module value = .error cause) : EntryFault module value cause := by
  unfold readEntry at h
  -- Each check is made after the ones before it have passed.
  split at h
  · next hfields =>
    cases h
    refine .notAnObject ?_
    rintro fields rfl
    cases hfields
  · next fields hfields =>
    cases value <;> cases hfields
    split at h
    · next hpath =>
      cases h
      refine .noPath fun path hheld => ?_
      rw [hheld] at hpath
      cases hpath
    · next path hpath =>
      split at h
      · next hstrings =>
        cases h
        obtain ⟨text, htext, hread⟩ := Option.bind_eq_some_iff.1 hpath
        cases text <;> cases hread
        rcases hheld : Table.get? fields "depends" with _ | held
        · rw [hheld] at hstrings
          cases hstrings
        · refine .badImports htext hheld ?_
          rintro texts rfl
          rw [hheld, Option.getD_some, Value.asStrings?_eq_some_iff.2 rfl] at hstrings
          cases hstrings
      · cases h

/-- A malformed entry is not read, and what is said about it is said by its reading. -/
theorem exists_readEntry_eq_error {value : JsonValue} (h : IsMalformed value) (module : CodeText) :
    ∃ cause, readEntry module value = .error cause ∧ EntryFault module value cause := by
  rcases hread : readEntry module value with cause | entry
  · exact ⟨cause, rfl, entryFault_of_readEntry hread⟩
  · exact absurd (readEntry_eq_ok_iff.1 hread) (isMalformed_iff.1 h entry)

/-- A text goes on after a mark. -/
theorem append_of_eq_append {front : CodeText} {mark text rest : String} (h : text = mark ++ rest) :
    front ++ text = front ++ mark ++ rest := by
  rw [h, CodeText.append_string_append]

/-- What is said about an entry begins with the name of its module. -/
theorem EntryFault.exists_reason {module : CodeText} {value : JsonValue} {cause : GraphCause}
    (h : EntryFault module value cause) :
    ∃ complaint : String, cause.reason = "module " ++ module ++ ": " ++ complaint := by
  cases h with
  | notAnObject hvalue =>
    have hmark : ": expected an object, got " = ": " ++ "expected an object, got " := by decide
    refine ⟨"expected an object, got " ++ value.kindName, append_of_eq_append ?_⟩
    exact (congrArg (· ++ value.kindName) hmark).trans String.append_assoc
  | noPath hpath => exact ⟨"missing or invalid 'path'", append_of_eq_append (by decide)⟩
  | badImports hpath hheld htexts =>
    exact ⟨"'depends' must be a list of module names", append_of_eq_append (by decide)⟩

/-- An object with malformed entries has a first one. -/
theorem exists_first_malformed {entries : JsonObject}
    (h : ∃ entry ∈ entries, IsMalformed entry.2) :
    ∃ before module held after, entries = before ++ (module, held) :: after ∧
      (∀ entry ∈ before, ¬ IsMalformed entry.2) ∧ IsMalformed held := by
  obtain ⟨before, ⟨module, held⟩, after, hentries, hbefore, hheld⟩ := exists_first h
  exact ⟨before, module, held, after, hentries, hbefore, hheld⟩

/-- Entries that are not malformed are passed, whether their modules are owned or not. -/
theorem readModules_append_of_error (ownership : Ownership) {before after : JsonObject}
    {module : CodeText} {held : JsonValue} {cause : GraphCause}
    (hbefore : ∀ entry ∈ before, ¬ IsMalformed entry.2)
    (hheld : readEntry module held = .error cause) :
    (readModules ownership (before ++ (module, held) :: after)).2 = .error cause := by
  induction before with
  | nil =>
    rw [List.nil_append, readModules, hheld]
  | cons first rest ih =>
    obtain ⟨hfirst, hrest⟩ := List.forall_mem_cons.1 hbefore
    rw [isMalformed_iff] at hfirst
    push Not at hfirst
    obtain ⟨entry, hentry⟩ := hfirst
    -- Passing a module adds to the log and to the modules, but leaves the fault.
    have hstep := ih hrest
    rw [List.cons_append, readModules, readEntry_eq_ok_iff.2 hentry]
    rcases hread : readModules ownership (rest ++ (module, held) :: after) with ⟨logs, result⟩
    rw [hread] at hstep
    obtain rfl : result = .error cause := hstep
    cases howner : ownership.ownerOf? entry.path with
    | none => simp only [howner]
    | some owner =>
      simp only [howner]
      rfl

namespace ImportGraph

/-- The check that both ends of every import have owners passes for the imports among modules. -/
theorem ofEdges_importsAmong (modules : List OwnedModule) :
    ofEdges (ownersOf modules) (edgesOf (importsAmong modules)) = .ok (ofModules modules) := by
  refine ofEdges_eq_ok_iff.2 ⟨fun edge hedge => ?_, rfl⟩
  obtain ⟨module, hmodule, hname, -, htarget⟩ := mem_edgesOf_importsAmong.1 hedge
  have hsource : (ownersOf modules).hasKey edge.source = true := by
    rw [← hname]
    exact List.any_eq_true.2 ⟨_, List.mem_map.2 ⟨module, hmodule, rfl⟩, beq_self_eq_true _⟩
  rw [Edge.isOwned, hsource, htarget]
  rfl

/-- A graph is what an object of modules says about those that have owners. -/
structure IsReadFrom (graph : ImportGraph) (ownership : Ownership) (entries : JsonObject) :
    Prop where
  /-- No module has two owners. -/
  nodup : graph.owners.keys.Nodup
  /-- The owners of modules are those of their paths. -/
  mem_owners_iff : ∀ module name, (module, name) ∈ graph.owners ↔
    ∃ entry, ListsModule entries module entry ∧ ownership.ownerOf? entry.path = some name
  /-- The imports are those from modules with owners to keys of the object with owners. -/
  mem_edges_iff : ∀ module target, { source := module, target } ∈ graph.edges ↔
    ∃ entry other, ListsModule entries module entry ∧ target ∈ entry.imports ∧
      ListsModule entries target other ∧ (ownership.ownerOf? entry.path).isSome = true ∧
      (ownership.ownerOf? other.path).isSome = true

/-- How values are read as import graphs. -/
structure ReadsModules (ownership : Ownership) (value : JsonValue) : Prop where
  /-- A value is refused just if it is no object or has a malformed entry. -/
  refused_iff : (∃ cause, (ofValue ownership value).2 = .error cause) ↔
    (∀ entries, value ≠ .table entries) ∨
      ∃ entries, value = .table entries ∧ ∃ entry ∈ entries, IsMalformed entry.2
  /-- A value that is no object is refused for its kind. -/
  notAnObject : (∀ entries, value ≠ .table entries) →
    (ofValue ownership value).2 = .error (.notAnObject value.kindName)
  /-- An object is refused for its first malformed entry, which is named. -/
  firstMalformed : ∀ before module held after, value = .table (before ++ (module, held) :: after) →
    (∀ entry ∈ before, ¬ IsMalformed entry.2) → IsMalformed held →
      ∃ (cause : GraphCause) (complaint : String), (ofValue ownership value).2 = .error cause ∧
        EntryFault module held cause ∧ cause.reason = "module " ++ module ++ ": " ++ complaint
  /-- Any other object is read: its graph passes the check of imports and is what it says. -/
  read : ∀ entries, value = .table entries → (∀ entry ∈ entries, ¬ IsMalformed entry.2) →
    ∃ modules graph, (readModules ownership entries).2 = .ok modules ∧
      ofEdges (ownersOf modules) (edgesOf (importsAmong modules)) = .ok graph ∧
      (ofValue ownership value).2 = .ok graph ∧ graph.IsReadFrom ownership entries

/-- A value that is no object is refused for its kind. -/
theorem ofValue_of_ne_table (ownership : Ownership) {value : JsonValue}
    (h : ∀ entries, value ≠ .table entries) :
    (ofValue ownership value).2 = .error (.notAnObject value.kindName) := by
  cases value with
  | table entries => exact absurd rfl (h entries)
  | _ => rfl

/-- An object is refused for its first malformed entry. -/
theorem exists_ofValue_eq_error (ownership : Ownership) {before after : JsonObject}
    {module : CodeText} {held : JsonValue} (hbefore : ∀ entry ∈ before, ¬ IsMalformed entry.2)
    (hheld : IsMalformed held) :
    ∃ cause, (ofValue ownership (.table (before ++ (module, held) :: after))).2 = .error cause ∧
      EntryFault module held cause := by
  obtain ⟨cause, hread, hfault⟩ := exists_readEntry_eq_error hheld module
  refine ⟨cause, ?_, hfault⟩
  rw [ofValue_table, readModules_append_of_error ownership hbefore hread]
  rfl

/-- An object without malformed entries is read as what it says. -/
theorem exists_ofValue_eq_ok (ownership : Ownership) {entries : JsonObject}
    (hkeys : entries.keys.Nodup) (hwell : ∀ entry ∈ entries, ¬ IsMalformed entry.2) :
    ∃ modules, (readModules ownership entries).2 = .ok modules ∧
      (ofValue ownership (.table entries)).2 = .ok (ofModules modules) ∧
      (ofModules modules).IsReadFrom ownership entries := by
  obtain ⟨modules, hread, hgraph, howners, hrepresents⟩ :=
    exists_ofModules ownership hkeys (isModuleListing_of_not_isMalformed hwell)
  refine ⟨modules, hread, hgraph, howners, fun module name => ?_, fun module target => ?_⟩
  · rw [← Table.get?_eq_some_iff howners, ← ownerOf?, hrepresents.owner_iff, listing]
    simp only [ownership.ownerOf?_eq_some_iff]
  · rw [hrepresents.mem_edges_iff, listing]
    simp only [Option.isSome_iff_exists, ownership.ownerOf?_eq_some_iff]
    constructor
    · rintro ⟨⟨entry, hlists, htarget⟩, ⟨name, again, hagain, hname⟩, other, held, hheld, hother⟩
      obtain rfl := hlists.unique hkeys hagain
      exact ⟨entry, held, hlists, htarget, hheld, ⟨name, hname⟩, ⟨other, hother⟩⟩
    · rintro ⟨entry, held, hlists, htarget, hheld, ⟨name, hname⟩, ⟨other, hother⟩⟩
      exact ⟨⟨entry, hlists, htarget⟩, ⟨name, entry, hlists, hname⟩, other, held, hheld, hother⟩

/-- Objects without malformed entries are read as what they say of the modules that have owners, and
no other values are read. -/
theorem readsModules (ownership : Ownership) {value : JsonValue}
    (hkeys : Json.HasDistinctKeys value) : ReadsModules ownership value := by
  constructor
  case refused_iff =>
    constructor
    · rintro ⟨cause, hcause⟩
      -- An object without malformed entries is read, so a refusal has one of the two causes.
      by_contra hwell
      rw [not_or] at hwell
      push Not at hwell
      obtain ⟨⟨entries, rfl⟩, hentries⟩ := hwell
      obtain ⟨modules, -, hread, -⟩ := exists_ofValue_eq_ok ownership hkeys (hentries entries rfl)
      rw [hread] at hcause
      cases hcause
    · rintro (hvalue | ⟨entries, rfl, hentries⟩)
      · exact ⟨_, ofValue_of_ne_table ownership hvalue⟩
      · obtain ⟨before, module, held, after, rfl, hbefore, hheld⟩ := exists_first_malformed hentries
        obtain ⟨cause, hcause, -⟩ := exists_ofValue_eq_error ownership hbefore hheld
        exact ⟨cause, hcause⟩
  case notAnObject => exact ofValue_of_ne_table ownership
  case firstMalformed =>
    rintro before module held after rfl hbefore hheld
    obtain ⟨cause, hcause, hfault⟩ := exists_ofValue_eq_error ownership hbefore hheld
    obtain ⟨complaint, hreason⟩ := hfault.exists_reason
    exact ⟨cause, complaint, hcause, hfault, hreason⟩
  case read =>
    rintro entries rfl hwell
    obtain ⟨modules, hmodules, hread, hgraph⟩ := exists_ofValue_eq_ok ownership hkeys hwell
    exact ⟨modules, ofModules modules, hmodules, ofEdges_importsAmong modules, hread, hgraph⟩

/-- The directories of two packages beside each other. -/
def beside : Ownership where
  roots := [(sourcePath "app/src", "app"), (sourcePath "lib/src", "lib")]
  roots_nodup := by decide +kernel
  roots_descending := by decide +kernel
  owners_canonical := by decide +kernel

/-- A module that imports itself, a later one, one that nobody owns and one that is not there. -/
def ahead : JsonObject :=
  [("App.Main", .table [("path", .string "app/src/App/Main.purs"),
      ("depends", .list [.string "App.Main", .string "Lib.A", .string "Build.Info",
        .string "Prim"])]),
    ("Build.Info", .table [("path", .string ".pedant/BuildInfo.purs")]),
    ("Lib.A", .table [("path", .string "./lib\\src/Lib/A.purs"), ("depends", .list [])])]

/-- The same modules and then one whose path is no text. -/
def astray : JsonObject :=
  ahead.append [("Odd", .table [("path", .int 1)])]

/-- The imports of itself and of the later module are kept. The object that ends with another entry
is refused for that one. -/
theorem readsModules_ahead :
    Json.HasDistinctKeys (.table ahead) ∧
      (∃ graph, (ofValue beside (.table ahead)).2 = .ok graph ∧ graph.IsReadFrom beside ahead ∧
        graph.edges = [⟨"App.Main", "App.Main"⟩, ⟨"App.Main", "Lib.A"⟩]) ∧
      ∃ complaint : String, (ofValue beside (.table astray)).2 = .error (.noPath "Odd") ∧
        (GraphCause.noPath "Odd").reason =
          "module " ++ CodeText.ofString "Odd" ++ ": " ++ complaint := by
  have hkeys : Json.HasDistinctKeys (.table ahead) := show ahead.keys.Nodup by decide
  have hkeys' : Json.HasDistinctKeys (.table astray) := show astray.keys.Nodup by decide
  have hreads := readsModules beside hkeys
  have hreads' := readsModules beside hkeys'
  -- Every entry can be read, so none of them is malformed.
  have hwell : ∀ entry ∈ ahead, ¬ IsMalformed entry.2 := by
    have hread : ∀ entry ∈ ahead, (readEntry entry.1 entry.2).isOk = true := by decide +kernel
    intro entry hentry hmalformed
    obtain ⟨described, hdescribed⟩ := isModuleListing_iff.2 hread entry.1 entry.2 hentry
    exact isMalformed_iff.1 hmalformed described hdescribed
  refine ⟨hkeys, ?_, ?_⟩
  · obtain ⟨modules, graph, -, -, hgraph, hread⟩ := hreads.read ahead rfl hwell
    refine ⟨graph, hgraph, hread, ?_⟩
    have hedges : (ofValue beside (.table ahead)).2.toOption.map (·.edges) =
        some [⟨"App.Main", "App.Main"⟩, ⟨"App.Main", "Lib.A"⟩] := by
      decide +kernel
    rw [hgraph] at hedges
    exact Option.some.inj hedges
  · have hodd : IsMalformed (.table [("path", .int 1)]) := Or.inl fun path hpath => by cases hpath
    obtain ⟨cause, complaint, hcause, hfault, hreason⟩ :=
      hreads'.firstMalformed ahead "Odd" _ [] rfl hwell hodd
    -- The entry has a path that is no text, which leaves one of the three faults.
    cases hfault with
    | notAnObject hvalue => exact absurd rfl (hvalue _)
    | noPath => exact ⟨complaint, hcause, hreason⟩
    | badImports hpath => cases hpath

end ImportGraph

end BuildAudit
