import BuildAudit.Proofs.Text.Blocks
import BuildAudit.Usage.Diagnostic

/-!
# What messages say

The message about undeclared packages is a listing of three levels: packages, the modules with
imports from them, and what these modules use of them. Each level is told from the others by where
its lines start, so a message determines what it was made from (`transitive_eq_of_message_eq`),
whatever stands in the names apart from line feeds and from spaces in front of names of packages.
-/

namespace BuildAudit.Diagnostic

open Text

/-! ### The lines of a listing -/

/-- Whether a line is about an undeclared package: it is indented by two spaces and no more. -/
def isDependencyLine (line : CodeText) : Bool :=
  line.points[2]? != some (.char ' ')

/-- Whether a line is about a module that imports: after four spaces its wording starts. -/
def isModuleLine (line : CodeText) : Bool :=
  line.points[4]? == some (.char 'f')

/-- A module and its imports are a block. -/
theorem isBlock_moduleLines (entry : CodeText × ModuleSet) :
    IsBlock isModuleLine (moduleLines entry) := by
  refine .intro ?_ (List.forall_mem_map.2 fun target _ => ?_)
  · simp [isModuleLine]
  · simp [isModuleLine]

/-- The lines about a module determine it and its imports. -/
theorem moduleLines_injective : Function.Injective moduleLines := by
  rintro ⟨module, targets⟩ ⟨other, others⟩ h
  obtain ⟨hhead, htail⟩ := List.cons.inj h
  have htargets : targets = others :=
    (CodeText.string_append_injective _).list_map htail
  have hmodule : module = other :=
    CodeText.string_append_injective _ (CodeText.append_string_injective _ hhead)
  rw [hmodule, htargets]

/-- The lines about modules determine them. -/
theorem eq_of_flatMap_moduleLines {uses uses' : ImportTable}
    (h : uses.flatMap moduleLines = uses'.flatMap moduleLines) : uses = uses' := by
  have hblocks (listed : ImportTable) :
      ∀ block ∈ listed.map moduleLines, IsBlock isModuleLine block :=
    List.forall_mem_map.2 fun entry _ => isBlock_moduleLines entry
  rw [List.flatMap_def, List.flatMap_def] at h
  exact moduleLines_injective.list_map
    (IsBlock.eq_of_flatten_eq (hblocks uses) (hblocks uses') h)

/-- A package and the modules that import from it are a block. -/
theorem isBlock_dependencyLines {entry : String × ImportTable}
    (h : entry.1.toList.head? ≠ some ' ') : IsBlock isDependencyLine (dependencyLines entry) := by
  refine .intro ?_ fun line hline => ?_
  · simpa [isDependencyLine, List.head?_eq_getElem?] using h
  · obtain ⟨use, -, huse⟩ := List.mem_flatMap.1 hline
    rcases List.mem_cons.1 huse with rfl | htarget
    · simp [isDependencyLine]
    · obtain ⟨target, -, rfl⟩ := List.mem_map.1 htarget
      simp [isDependencyLine]

/-- The lines about a package determine it and what is imported from it. -/
theorem dependencyLines_injective : Function.Injective dependencyLines := by
  rintro ⟨name, uses⟩ ⟨other, others⟩ h
  obtain ⟨hhead, htail⟩ := List.cons.inj h
  rw [show name = other from (String.append_right_inj _).1 (CodeText.ofString_injective hhead),
    show uses = others from eq_of_flatMap_moduleLines htail]

/-- The lines about packages determine them if their names do not start with spaces. -/
theorem eq_of_flatMap_dependencyLines {modules modules' : Table ImportTable}
    (h : ∀ entry ∈ modules, entry.1.toList.head? ≠ some ' ')
    (h' : ∀ entry ∈ modules', entry.1.toList.head? ≠ some ' ')
    (heq : modules.flatMap dependencyLines = modules'.flatMap dependencyLines) :
    modules = modules' := by
  have hblocks {listed : Table ImportTable}
      (hlisted : ∀ entry ∈ listed, entry.1.toList.head? ≠ some ' ') :
      ∀ block ∈ listed.map dependencyLines, IsBlock isDependencyLine block :=
    List.forall_mem_map.2 fun entry hentry => isBlock_dependencyLines (hlisted entry hentry)
  rw [List.flatMap_def, List.flatMap_def] at heq
  exact dependencyLines_injective.list_map (IsBlock.eq_of_flatten_eq (hblocks h) (hblocks h') heq)

/-! ### Messages -/

/-- The names in the imports from undeclared packages keep to their lines, and the names of the
packages do not start with spaces. -/
structure IsLegible (modules : Table ImportTable) : Prop where
  /-- No package has a line feed in its name or a space in front of it. -/
  packages : ∀ entry ∈ modules, '\n' ∉ entry.1.toList ∧ entry.1.toList.head? ≠ some ' '
  /-- No module has a line feed in its name. -/
  modules : ∀ entry ∈ modules, ∀ use ∈ entry.2,
    .char '\n' ∉ use.1.points ∧ ∀ target ∈ use.2, .char '\n' ∉ target.points

/-- A text without line feeds after an indented string is an indented line. -/
theorem isIndented_string_append {front : String} {text : CodeText} (hfront : IsIndented front)
    (htext : .char '\n' ∉ text.points) : IsIndented (front ++ text) := by
  obtain ⟨rest, hrest, hnone⟩ := hfront
  refine ⟨rest ++ text.points, congrArg (· ++ text.points) hrest, ?_⟩
  rw [List.mem_append, not_or]
  exact ⟨hnone, htext⟩

/-- A string without line feeds after an indented one is an indented line. -/
theorem isIndented_ofString_append {front text : String} (hfront : IsIndented front)
    (htext : '\n' ∉ text.toList) : IsIndented (.ofString (front ++ text)) := by
  rw [CodeText.ofString_append]
  exact isIndented_string_append hfront (CodeText.char_mem_points_ofString.not.2 htext)

/-- A string without line feeds after an indented text goes on with its line. -/
theorem isIndented_append_string {text : CodeText} {after : String} (htext : IsIndented text)
    (hafter : '\n' ∉ after.toList) : IsIndented (text ++ after) := by
  obtain ⟨rest, hrest, hnone⟩ := htext
  refine ⟨rest ++ (CodeText.ofString after).points, congrArg (· ++ _) hrest, ?_⟩
  rw [List.mem_append, not_or]
  exact ⟨hnone, CodeText.char_mem_points_ofString.not.2 hafter⟩

/-- The lines of a listing of legible names are indented. -/
theorem IsLegible.isIndented {modules : Table ImportTable} (h : IsLegible modules) :
    ∀ line ∈ modules.flatMap dependencyLines, IsIndented line := by
  intro line hline
  -- A line is that of a package, that of a module below it, or that of an import below that.
  obtain ⟨entry, hentry, hline⟩ := List.mem_flatMap.1 hline
  rcases List.mem_cons.1 hline with rfl | hline
  · exact isIndented_ofString_append ⟨_, rfl, by decide⟩ (h.packages entry hentry).1
  obtain ⟨use, huse, hline⟩ := List.mem_flatMap.1 hline
  obtain ⟨hmodule, htargets⟩ := h.modules entry hentry use huse
  rcases List.mem_cons.1 hline with rfl | hline
  · refine isIndented_append_string ?_ (by decide)
    exact isIndented_string_append ⟨_, rfl, by decide⟩ hmodule
  · obtain ⟨target, htarget, rfl⟩ := List.mem_map.1 hline
    exact isIndented_string_append ⟨_, rfl, by decide⟩ (htargets target htarget)

/-- The message about unused dependencies determines them if they keep to their lines. -/
theorem unused_eq_of_message_eq {package : String} {dependencies dependencies' : NameSet}
    (h : ∀ name ∈ dependencies, '\n' ∉ name.toList)
    (h' : ∀ name ∈ dependencies', '\n' ∉ name.toList)
    (heq : (unused package dependencies).message = (unused package dependencies').message) :
    dependencies = dependencies' := by
  have hindented {names : NameSet} (hnames : ∀ name ∈ names, '\n' ∉ name.toList) :
      ∀ line ∈ names.map fun name => .ofString ("  - " ++ name), IsIndented line :=
    List.forall_mem_map.2 fun name hname =>
      isIndented_ofString_append ⟨_, rfl, by decide⟩ (hnames name hname)
  rw [message, message, lines, lines, ← List.append_nil (dependencies.map _),
    ← List.append_nil (dependencies'.map _)] at heq
  have hlines := eq_of_separatedBy_eq (hindented h) (hindented h') isFooter_nil isFooter_nil heq
  exact Function.Injective.list_map
    (fun _ _ hline => (String.append_right_inj _).1 (CodeText.ofString_injective hline)) hlines

/-- The message about undeclared packages determines them and the imports from them. -/
theorem transitive_eq_of_message_eq {package installCommand : String}
    {modules modules' : Table ImportTable} (h : IsLegible modules) (h' : IsLegible modules')
    (heq : (transitive package modules installCommand).message =
      (transitive package modules' installCommand).message) : modules = modules' := by
  rw [message, message, lines, lines] at heq
  refine eq_of_flatMap_dependencyLines (fun entry hentry => (h.packages entry hentry).2)
    (fun entry hentry => (h'.packages entry hentry).2)
    (eq_of_separatedBy_eq h.isIndented h'.isIndented ?_ ?_ heq)
  -- What follows the listing starts with a word.
  all_goals
    rintro line ⟨⟩
    exact ⟨.char 'R', _, rfl, by decide⟩

/-- The two kinds of messages differ after the name of the package. -/
theorem message_unused_ne_transitive {package installCommand : String} {dependencies : NameSet}
    {modules : Table ImportTable} :
    (unused package dependencies).message ≠
      (transitive package modules installCommand).message := by
  intro h
  have hpoints := congrArg CodeText.points h
  rw [message, message, lines, lines, points_separatedBy_cons, List.cons_append,
    points_separatedBy_cons] at hpoints
  -- The first lines agree up to the quote, after which one declares and the other imports.
  simp [toString] at hpoints

end BuildAudit.Diagnostic
