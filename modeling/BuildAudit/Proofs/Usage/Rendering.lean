import BuildAudit.Proofs.Graph.Decode
import BuildAudit.Proofs.Usage
import BuildAudit.Proofs.Usage.Message

/-!
# Renderings of a report

A report is rendered as diagnostics, a diagnostic as a message and as a value. Nothing is lost on
the way: the parts of the diagnostics give the report back, the values give the parts back, and the
messages alone belong to one report only, if the names in it keep to their lines
(`UsageReport.isRenderedBy_diagnostics`). Reports are the same if they have the same sets and the
same tables, in whatever order these list their keys.
-/

namespace BuildAudit

namespace UsageReport

/-- The sets of a report are in ascending order, and the keys of its tables are distinct. -/
structure IsProper (report : UsageReport) : Prop where
  /-- The unused dependencies are a set. -/
  unused : report.unused.Pairwise (· < ·)
  /-- No package is undeclared twice. -/
  packages : report.undeclared.keys.Nodup
  /-- No module imports from a package twice. -/
  modules : ∀ entry ∈ report.undeclared, entry.2.keys.Nodup
  /-- What a module imports is a set. -/
  targets : ∀ entry ∈ report.undeclared, ∀ use ∈ entry.2, use.2.Pairwise (· < ·)

/-- The names of a report keep to their lines, and those of undeclared packages do not start with
spaces. -/
structure IsLegible (report : UsageReport) : Prop where
  /-- No unused dependency has a line feed in its name. -/
  unused : ∀ name ∈ report.unused, '\n' ∉ name.toList
  /-- The undeclared packages and the imports from them can be read in a listing. -/
  undeclared : Diagnostic.IsLegible report.undeclared

/-- Reports say the same: they have the same unused dependencies, and each package has the same
imports by each module, or none in both. -/
structure Same (left right : UsageReport) : Prop where
  /-- The unused dependencies are the same. -/
  unused : left.unused = right.unused
  /-- The imports from each package are the same. -/
  undeclared : ∀ name,
    (left.undeclared.get? name).map Table.get? = (right.undeclared.get? name).map Table.get?

/-- A report with its tables in order. -/
def inOrder (report : UsageReport) : UsageReport where
  unused := report.unused
  undeclared := report.undeclared.sorted.map fun entry => (entry.1, entry.2.sorted)

/-- An entry of a report in order is one of the report. -/
theorem exists_of_mem_inOrder {report : UsageReport} {entry : String × ImportTable}
    (h : entry ∈ report.inOrder.undeclared) :
    ∃ uses, (entry.1, uses) ∈ report.undeclared ∧ entry.2 = uses.sorted := by
  obtain ⟨⟨name, uses⟩, hmem, rfl⟩ := List.mem_map.1 h
  exact ⟨uses, Table.mem_sorted.1 hmem, rfl⟩

/-- Putting the tables of a report in order changes nothing that it says. -/
theorem IsProper.same_inOrder {report : UsageReport} (h : report.IsProper) :
    report.inOrder.Same report where
  unused := rfl
  undeclared name := by
    rw [inOrder, Table.get?_map, Table.get?_sorted h.packages, Option.map_map]
    refine Option.map_congr fun uses huses => funext fun module => ?_
    exact Table.get?_sorted (h.modules _ (Table.mem_of_get? huses)) module

/-- Reports that are the same once they are in order are the same. -/
theorem same_of_inOrder_eq {left right : UsageReport} (hleft : left.IsProper)
    (hright : right.IsProper) (h : left.inOrder = right.inOrder) : left.Same right where
  unused := show left.inOrder.unused = right.inOrder.unused by rw [h]
  undeclared name := by
    rw [← hleft.same_inOrder.undeclared, ← hright.same_inOrder.undeclared, h]

/-- Putting the tables of a report in order leaves its names. -/
theorem IsLegible.inOrder {report : UsageReport} (h : report.IsLegible) :
    report.inOrder.IsLegible where
  unused := h.unused
  undeclared := {
    packages := fun entry hentry => by
      obtain ⟨uses, hmem, -⟩ := exists_of_mem_inOrder hentry
      exact h.undeclared.packages (entry.1, uses) hmem
    modules := fun entry hentry use huse => by
      obtain ⟨uses, hmem, hsorted⟩ := exists_of_mem_inOrder hentry
      rw [hsorted, Table.mem_sorted] at huse
      exact h.undeclared.modules (entry.1, uses) hmem use huse }

/-- The diagnostics of a report are its findings in order. -/
theorem diagnostics_eq_findings (report : UsageReport) (package installCommand : String) :
    report.diagnostics package installCommand =
      findings package report.inOrder.unused report.inOrder.undeclared installCommand := by
  have hempty : report.inOrder.undeclared = [] ↔ report.undeclared = [] := by
    rw [← List.length_eq_zero_iff, ← List.length_eq_zero_iff, inOrder, List.length_map,
      Table.sorted, List.length_mergeSort]
  rw [diagnostics, findings]
  simp only [hempty, List.isEmpty_iff]
  rfl

end UsageReport

namespace Diagnostic

/-- Imports are listed in strictly ascending order on each level. -/
structure IsAscending (listed : Table (Table (List CodeText) CodeText)) : Prop where
  /-- The packages are ascending. -/
  packages : listed.keys.Pairwise (· < ·)
  /-- The modules that import from a package are ascending. -/
  modules : ∀ entry ∈ listed, entry.2.keys.Pairwise (· < ·)
  /-- What a module imports is ascending. -/
  targets : ∀ entry ∈ listed, ∀ use ∈ entry.2, use.2.Pairwise (· < ·)

theorem isAscending_nil : IsAscending [] where
  packages := .nil
  modules _ h := absurd h List.not_mem_nil
  targets _ h := absurd h List.not_mem_nil

/-- The imports in a report in order are ascending. -/
theorem isAscending_inOrder {report : UsageReport} (h : report.IsProper) :
    IsAscending report.inOrder.undeclared where
  packages := by
    have hkeys : report.inOrder.undeclared.keys = report.undeclared.sorted.keys := by
      rw [UsageReport.inOrder, Table.keys, Table.keys, List.map_map]
      rfl
    rw [hkeys]
    exact Table.pairwise_keys_sorted h.packages
  modules entry hentry := by
    obtain ⟨uses, hmem, hsorted⟩ := UsageReport.exists_of_mem_inOrder hentry
    rw [hsorted]
    exact Table.pairwise_keys_sorted (h.modules _ hmem)
  targets entry hentry use huse := by
    obtain ⟨uses, hmem, hsorted⟩ := UsageReport.exists_of_mem_inOrder hentry
    rw [hsorted, Table.mem_sorted] at huse
    exact h.targets _ hmem use huse

/-- The parts of a diagnostic. -/
structure Parts where
  /-- The name of the violated rule. -/
  kind : String
  /-- The package that it is about. -/
  package : String
  /-- The message. -/
  message : CodeText
  /-- The packages that offend. -/
  dependencies : List String
  /-- For each undeclared package, the modules that import from it and what they import. -/
  modules : Table (Table (List CodeText) CodeText)
  /-- The command that adds the undeclared packages. -/
  fixCommand? : Option String
deriving DecidableEq, Repr

/-- The parts that a diagnostic has. -/
def parts (diagnostic : Diagnostic) : Parts where
  kind := diagnostic.kind
  package := diagnostic.package
  message := diagnostic.message
  dependencies := diagnostic.dependencies
  modules :=
    match diagnostic with
    | .unused .. => []
    | .transitive _ modules _ => modules
  fixCommand? :=
    match diagnostic with
    | .unused .. => none
    | .transitive package modules installCommand =>
      some (fixCommand package modules.keys installCommand)

end Diagnostic

/-- The character that a code point is. -/
def CodePoint.char? : CodePoint → Option Char
  | .char c => some c
  | .half _ => none

/-- The string that a text without halves is. -/
def CodeText.string? (text : CodeText) : Option String :=
  (text.points.mapM CodePoint.char?).map String.ofList

/-- Reads a table with keys and values that are read in some ways. -/
def Value.asTableOf? {α κ : Type} (readKey : CodeText → Option κ) (read : JsonValue → Option α)
    (value : JsonValue) : Option (Table α κ) :=
  value.asTable?.bind fun entries => entries.mapM fun entry =>
    (readKey entry.1).bind fun key => (read entry.2).map fun held => (key, held)

/-- Reads the parts of a diagnostic from its form for machines. -/
def Diagnostic.Parts.ofValue? (value : JsonValue) : Option Parts := do
  let fields ← value.asTable?
  let kind ← ((fields.get? "kind").bind Value.asString?).bind CodeText.string?
  let package ← ((fields.get? "package").bind Value.asString?).bind CodeText.string?
  let message ← (fields.get? "message").bind Value.asString?
  let dependencies ← ((fields.get? "dependencies").bind Value.asStrings?).bind
    (·.mapM CodeText.string?)
  let modules ← ((fields.get? "modules").getD (.table [])).asTableOf? CodeText.string?
    (Value.asTableOf? some Value.asStrings?)
  some {
    kind, package, message, dependencies, modules
    fixCommand? := ((fields.get? "fix_command").bind Value.asString?).bind CodeText.string? }

/-- The report that the parts of diagnostics give: the dependencies of those about unused ones, and
the imports of those about undeclared ones, with lists for sets. -/
def UsageReport.ofParts (parts : List Diagnostic.Parts) : UsageReport where
  unused :=
    OrderedSet.ofList
      ((parts.filter (·.kind == "unused_dependency")).flatMap (·.dependencies))
  undeclared :=
    ((parts.filter (·.kind == "transitive_dependency")).flatMap (·.modules)).map fun entry =>
      (entry.1, entry.2.map fun use => (use.1, OrderedSet.ofList use.2))

/-- Texts are read as strings exactly if they are those of strings. -/
theorem CodeText.string?_eq_some_iff {text : CodeText} {string : String} :
    text.string? = some string ↔ text = .ofString string := by
  have hpoint (point : CodePoint) (c : Char) : point.char? = some c ↔ point = .char c := by
    cases point <;> simp [CodePoint.char?]
  rw [string?, Option.map_eq_some_iff]
  simp only [mapM_eq_some_iff hpoint]
  constructor
  · rintro ⟨cs, hcs, rfl⟩
    exact eq_of_points_eq (by rw [hcs, points_ofString, String.toList_ofList])
  · rintro rfl
    exact ⟨string.toList, rfl, String.ofList_toList⟩

/-- A table is read from the keys and values that it is written as. -/
theorem Value.asTableOf?_eq_some_iff {α κ : Type} {readKey : CodeText → Option κ}
    {writeKey : κ → CodeText} {read : JsonValue → Option α} {write : α → JsonValue}
    (hkey : ∀ text key, readKey text = some key ↔ text = writeKey key)
    (h : ∀ value held, read value = some held ↔ value = write held) (value : JsonValue)
    (table : Table α κ) :
    value.asTableOf? readKey read = some table ↔
      value = .table (table.map fun entry => (writeKey entry.1, write entry.2)) := by
  have hentry (entry : CodeText × JsonValue) (result : κ × α) :
      ((readKey entry.1).bind fun key => (read entry.2).map fun held => (key, held)) =
        some result ↔ entry = (writeKey result.1, write result.2) := by
    rw [Option.bind_eq_some_iff]
    simp only [Option.map_eq_some_iff, hkey, h]
    constructor
    · rintro ⟨key, hwritten, held, hheld, rfl⟩
      rw [← hwritten, ← hheld]
    · rintro rfl
      exact ⟨result.1, rfl, result.2, rfl, rfl⟩
  rw [asTableOf?, Option.bind_eq_some_iff]
  simp only [mapM_eq_some_iff hentry]
  constructor
  · rintro ⟨entries, hentries, rfl⟩
    cases value <;> cases hentries
    rfl
  · rintro rfl
    exact ⟨_, rfl, rfl⟩

namespace Diagnostic

/-- Tables of imports as a value. -/
def modulesValue (modules : Table (Table (List CodeText) CodeText)) : JsonValue :=
  .table (modules.map fun entry =>
    (.ofString entry.1, .table (entry.2.map fun use => (use.1, textsValue use.2))))

theorem asTableOf?_modulesValue (modules : Table (Table (List CodeText) CodeText)) :
    (modulesValue modules).asTableOf? CodeText.string? (Value.asTableOf? some Value.asStrings?) =
      some modules := by
  have huses (value : JsonValue) (uses : Table (List CodeText) CodeText) :
      value.asTableOf? some Value.asStrings? = some uses ↔
        value = .table (uses.map fun use => (use.1, textsValue use.2)) :=
    Value.asTableOf?_eq_some_iff (fun _ _ => Option.some_inj)
      (fun _ _ => Value.asStrings?_eq_some_iff) value uses
  exact (Value.asTableOf?_eq_some_iff (fun _ _ => CodeText.string?_eq_some_iff) huses _ modules).2
    rfl

/-- Parts are read from a table that holds each of them under its name. -/
theorem ofValue?_table {fields : JsonObject} {parts : Parts}
    (hkind : fields.get? "kind" = some (.string parts.kind))
    (hpackage : fields.get? "package" = some (.string parts.package))
    (hmessage : fields.get? "message" = some (.string parts.message))
    (hdependencies : fields.get? "dependencies" =
      some (textsValue (parts.dependencies.map .ofString)))
    (hmodules : (fields.get? "modules").getD (.table []) = modulesValue parts.modules)
    (hcommand : ((fields.get? "fix_command").bind Value.asString?).bind CodeText.string? =
      parts.fixCommand?) :
    Parts.ofValue? (.table fields) = some parts := by
  have hstring (name : String) : (CodeText.ofString name).string? = some name :=
    CodeText.string?_eq_some_iff.2 rfl
  have htexts (texts : List CodeText) : (textsValue texts).asStrings? = some texts :=
    Value.asStrings?_eq_some_iff.2 rfl
  have hnames : (parts.dependencies.map CodeText.ofString).mapM CodeText.string? =
      some parts.dependencies :=
    (mapM_eq_some_iff fun _ _ => CodeText.string?_eq_some_iff).2 rfl
  simp [Parts.ofValue?, Value.asTable?, Value.asString?, hkind, hpackage, hmessage, hdependencies,
    hmodules, hcommand, hstring, htexts, hnames, asTableOf?_modulesValue]

/-- The parts of a diagnostic are read from its form for machines. -/
theorem ofValue?_toValue (diagnostic : Diagnostic) :
    Parts.ofValue? diagnostic.toValue = some diagnostic.parts := by
  cases diagnostic with
  | unused package dependencies => exact ofValue?_table rfl rfl rfl rfl rfl rfl
  | transitive package modules installCommand =>
    exact ofValue?_table rfl rfl rfl rfl rfl (CodeText.string?_eq_some_iff.2 rfl)

/-- A message about unused dependencies that is among those of findings is about those found. -/
theorem eq_of_message_unused_mem {package installCommand : String} {dependencies unused : NameSet}
    {modules : Table ImportTable} (h : ∀ name ∈ dependencies, '\n' ∉ name.toList)
    (h' : ∀ name ∈ unused, '\n' ∉ name.toList)
    (hmem : (Diagnostic.unused package dependencies).message ∈
      (findings package unused modules installCommand).map message) : dependencies = unused := by
  obtain ⟨diagnostic, hdiagnostic, hmessage⟩ := List.mem_map.1 hmem
  rcases eq_or_eq_of_mem_findings hdiagnostic with rfl | rfl
  · exact unused_eq_of_message_eq h h' hmessage.symm
  · exact absurd hmessage.symm message_unused_ne_transitive

/-- A message about undeclared packages that is among those of findings is about those found. -/
theorem eq_of_message_transitive_mem {package installCommand : String} {unused : NameSet}
    {modules modules' : Table ImportTable} (h : IsLegible modules) (h' : IsLegible modules')
    (hmem : (transitive package modules installCommand).message ∈
      (findings package unused modules' installCommand).map message) : modules = modules' := by
  obtain ⟨diagnostic, hdiagnostic, hmessage⟩ := List.mem_map.1 hmem
  rcases eq_or_eq_of_mem_findings hdiagnostic with rfl | rfl
  · exact absurd hmessage message_unused_ne_transitive
  · exact transitive_eq_of_message_eq h h' hmessage.symm

/-- Lists are equal if each of them that is not empty is equal to the other. -/
theorem eq_of_ne_nil_imp {α : Type} {left right : List α} (h : left ≠ [] → left = right)
    (h' : right ≠ [] → right = left) : left = right := by
  by_cases hleft : left = []
  · by_cases hright : right = []
    · rw [hleft, hright]
    · exact (h' hright).symm
  · exact h hleft

/-- The messages of findings determine them. -/
theorem eq_of_map_message_findings {package installCommand : String} {unused unused' : NameSet}
    {modules modules' : Table ImportTable} (hunused : ∀ name ∈ unused, '\n' ∉ name.toList)
    (hunused' : ∀ name ∈ unused', '\n' ∉ name.toList) (hmodules : IsLegible modules)
    (hmodules' : IsLegible modules')
    (h : (findings package unused modules installCommand).map message =
      (findings package unused' modules' installCommand).map message) :
    unused = unused' ∧ modules = modules' := by
  -- What is not empty has a message on its side, which is one of the other side too.
  have hfound (names : NameSet) (listed : Table ImportTable) (hnames : names ≠ []) :
      (Diagnostic.unused package names).message ∈
        (findings package names listed installCommand).map message :=
    List.mem_map_of_mem (List.mem_append_left _ (by rw [if_neg hnames]; exact .head _))
  have hlisted (names : NameSet) (listed : Table ImportTable) (hne : listed ≠ []) :
      (transitive package listed installCommand).message ∈
        (findings package names listed installCommand).map message :=
    List.mem_map_of_mem (List.mem_append_right _ (by rw [if_neg hne]; exact .head _))
  constructor
  · refine eq_of_ne_nil_imp (fun hne => ?_) (fun hne => ?_)
    · exact eq_of_message_unused_mem hunused hunused' (h ▸ hfound unused modules hne)
    · exact eq_of_message_unused_mem hunused' hunused (h ▸ hfound unused' modules' hne)
  · refine eq_of_ne_nil_imp (fun hne => ?_) (fun hne => ?_)
    · exact eq_of_message_transitive_mem hmodules hmodules' (h ▸ hlisted unused modules hne)
    · exact eq_of_message_transitive_mem hmodules' hmodules (h ▸ hlisted unused' modules' hne)

/-- Lists in ascending order are the sets that they are read as. -/
theorem ofParts_findings {package installCommand : String} {unused : NameSet}
    {modules : Table ImportTable} (hunused : unused.Pairwise (· < ·))
    (hmodules : IsAscending modules) :
    UsageReport.ofParts ((findings package unused modules installCommand).map parts) =
      { unused, undeclared := modules } := by
  have hdependencies :
      (((findings package unused modules installCommand).map parts).filter
        (·.kind == "unused_dependency")).flatMap (·.dependencies) = unused := by
    by_cases hnone : unused = [] <;> by_cases hnone' : modules = [] <;>
      simp [findings, parts, kind, dependencies, hnone, hnone']
  have himports :
      (((findings package unused modules installCommand).map parts).filter
        (·.kind == "transitive_dependency")).flatMap (·.modules) = modules := by
    by_cases hnone : unused = [] <;> by_cases hnone' : modules = [] <;>
      simp [findings, parts, kind, hnone, hnone']
  have hsets : (modules.map fun entry =>
      (entry.1, entry.2.map fun use => (use.1, OrderedSet.ofList use.2))) = modules := by
    refine (List.map_congr_left fun entry hentry => ?_).trans (List.map_id _)
    refine congrArg (Prod.mk entry.1) ?_
    refine (List.map_congr_left fun use huse => ?_).trans (List.map_id _)
    rw [OrderedSet.ofList_eq_self (hmodules.targets entry hentry use huse)]
    rfl
  rw [UsageReport.ofParts, hdependencies, himports, hsets, OrderedSet.ofList_eq_self hunused]

end Diagnostic

/-- What diagnostics tell of a report. -/
structure UsageReport.IsRenderedBy (report : UsageReport) (package installCommand : String)
    (diagnostics : List Diagnostic) : Prop where
  /-- There is at most one diagnostic about unused dependencies, and after it at most one about
  undeclared packages. -/
  kinds : (diagnostics.map (·.kind)).Sublist ["unused_dependency", "transitive_dependency"]
  /-- All lists are in strictly ascending order. -/
  ascending : ∀ diagnostic ∈ diagnostics, diagnostic.parts.dependencies.Pairwise (· < ·) ∧
    Diagnostic.IsAscending diagnostic.parts.modules
  /-- The undeclared packages are those that imports are shown of. -/
  keys_eq : ∀ diagnostic ∈ diagnostics, diagnostic.parts.kind = "transitive_dependency" →
    diagnostic.parts.dependencies = diagnostic.parts.modules.keys
  /-- The parts give the report back. -/
  recovered : (ofParts (diagnostics.map (·.parts))).Same report
  /-- The forms for machines give the parts back. -/
  carried : ∀ diagnostic ∈ diagnostics,
    Diagnostic.Parts.ofValue? diagnostic.toValue = some diagnostic.parts
  /-- A report about the package that has the same messages is the same. -/
  determined : report.IsLegible → ∀ other : UsageReport, other.IsProper → other.IsLegible →
    (other.diagnostics package installCommand).map (·.message) = diagnostics.map (·.message) →
      other.Same report

/-- The diagnostics of a report render it: they are at most two, their parts and their forms for
machines give it back, and so do their messages if its names keep to their lines. -/
theorem UsageReport.isRenderedBy_diagnostics {report : UsageReport} (h : report.IsProper)
    (package installCommand : String) :
    report.IsRenderedBy package installCommand (report.diagnostics package installCommand) := by
  have hascending := Diagnostic.isAscending_inOrder h
  rw [diagnostics_eq_findings]
  constructor
  case kinds =>
    rw [findings]
    split <;> split <;> simp [Diagnostic.kind]
  case ascending =>
    intro diagnostic hdiagnostic
    rcases eq_or_eq_of_mem_findings hdiagnostic with rfl | rfl
    · exact ⟨h.unused, Diagnostic.isAscending_nil⟩
    · exact ⟨hascending.packages, hascending⟩
  case keys_eq =>
    intro diagnostic hdiagnostic hkind
    rcases eq_or_eq_of_mem_findings hdiagnostic with rfl | rfl
    -- Only the other finding is of this kind.
    · have hne : "unused_dependency" ≠ "transitive_dependency" := by decide
      exact absurd hkind hne
    · rfl
  case recovered =>
    have hparts : ofParts ((findings package report.inOrder.unused report.inOrder.undeclared
        installCommand).map (·.parts)) = report.inOrder :=
      Diagnostic.ofParts_findings h.unused hascending
    rw [hparts]
    exact h.same_inOrder
  case carried => exact fun diagnostic _ => diagnostic.ofValue?_toValue
  case determined =>
    intro hlegible other hother hlegible' heq
    rw [diagnostics_eq_findings] at heq
    obtain ⟨hunused, hundeclared⟩ := Diagnostic.eq_of_map_message_findings hlegible'.unused
      hlegible.unused hlegible'.inOrder.undeclared hlegible.inOrder.undeclared heq
    exact same_of_inOrder_eq hother h (congrArg₂ UsageReport.mk hunused hundeclared)

/-- A report whose tables are in no order, with a module that imports nothing and a name that looks
like the line of a module. -/
def UsageReport.jumbled : UsageReport where
  unused := ["lib-c", "lib-d"]
  undeclared := [
    ("lib-b", [("App.Z", ["LibB"]), ("App.A", [])]),
    ("from `lib-a`, which imports:", [("App", ["  LibA", "LibA.More"])])]

/-- The report is given back by its diagnostics, and no other one has their messages. -/
theorem UsageReport.isRenderedBy_diagnostics_jumbled :
    (ofParts ((jumbled.diagnostics "app" defaultInstallCommand).map (·.parts))).Same jumbled ∧
      ∀ other : UsageReport, other.IsProper → other.IsLegible →
        (other.diagnostics "app" defaultInstallCommand).map (·.message) =
            (jumbled.diagnostics "app" defaultInstallCommand).map (·.message) →
          other.Same jumbled := by
  have hproper : jumbled.IsProper := by
    constructor <;> decide +kernel
  have hlegible : jumbled.IsLegible := by
    refine ⟨by decide +kernel, ?_⟩
    constructor <;> decide +kernel
  have hrendered := isRenderedBy_diagnostics hproper "app" defaultInstallCommand
  exact ⟨hrendered.recovered, hrendered.determined hlegible⟩

end BuildAudit
