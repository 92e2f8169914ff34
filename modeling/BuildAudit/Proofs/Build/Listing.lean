import BuildAudit.Build.Info
import BuildAudit.Proofs.Text.Cut
import BuildAudit.Proofs.Workspace.Reading

/-!
# The packages that the module lists

The module with the build information lists the names of the packages in quotation marks, and the
names are put there as they are. What stands between two of them is `itemMark`, and reading the
listing back cuts it at these marks (`readPackages?_renderBuildInfo`). A name may hold the mark
itself: then the listing reads as if there were several packages. So the names are read back just if
no name holds the mark, and workspaces have the same module just if their names are made of the same
items (`tellsPackages`).
-/

namespace BuildAudit

/-- What stands between the characters of two names in a listing. -/
def itemMark : String :=
  "\"" ++ "\n  , " ++ "\""

/-- The characters of the mark after its first one. -/
def markRest : List Char :=
  ['\n', ' ', ' ', ',', ' ', '"']

/-- What comes before the listing in the module. -/
def beforeListing : String :=
  "-- @inline export packages always\n" ++ s!"module {buildInfoModule} where\n" ++ "\n" ++
    "packages :: Array String\n" ++ "packages =\n" ++ "  "

/-- What comes after the listing in the module. -/
def afterListing (version : String) : String :=
  "\n" ++ "\n" ++ "pedantVersion :: String\n" ++ "pedantVersion = \"" ++ version ++ "\"\n"

/-- The items that a name is read as. -/
def itemsOf (name : String) : List String :=
  (Text.cut '"' markRest name.toList).map .ofList

/-- What stands between two texts that a text starts and ends with. -/
def between? (before after : String) (text : List Char) : Option (List Char) :=
  (text.dropPrefix? before.toList).bind (·.dropSuffix? after.toList)

/-- Reads the items in the listing of a module back. -/
def readPackages? (version text : String) : Option (List String) :=
  (between? beforeListing (afterListing version) text.toList).bind fun listing =>
    if listing = "[]".toList then some []
    else (between? "[ \"" "\"\n  ]" listing).map fun items => itemsOf (.ofList items)

/-- A name holds what stands between two names. -/
def HoldsMark (name : String) : Prop :=
  itemMark.toList <:+: name.toList

theorem toList_itemMark : itemMark.toList = '"' :: markRest := by
  decide

/-- What stands between two texts is found there. -/
theorem between?_append (before after : String) (text : List Char) :
    between? before after (before.toList ++ text ++ after.toList) = some text := by
  have hprefix := List.dropPrefix?_append_of_beq (text ++ after.toList)
    (beq_self_eq_true before.toList)
  have hsuffix : (text ++ after.toList).dropSuffix? after.toList = some text :=
    List.dropSuffix?_eq_some_iff.2 ⟨after.toList, rfl, beq_self_eq_true _⟩
  rw [between?, List.append_assoc, hprefix, Option.bind_some, hsuffix]

/-- The module is its listing between two texts. -/
theorem renderBuildInfo_eq (packages : List String) (version : String) :
    renderBuildInfo packages version =
      beforeListing ++ packageListing packages ++ afterListing version := by
  have htext (text : String) : toString text = text := rfl
  unfold renderBuildInfo beforeListing afterListing
  -- The name of the module stays closed, for else it is compared character by character.
  generalize buildInfoModule = module
  simp only [htext, ← String.append_assoc]

/-- Names in quotation marks are names with the mark between any two of them. -/
theorem intercalate_quoted {names : List String} (h : names ≠ []) :
    "\n  , ".intercalate (names.map fun name => "\"" ++ name ++ "\"") =
      "\"" ++ itemMark.intercalate names ++ "\"" := by
  induction names with
  | nil => exact absurd rfl h
  | cons name others ih =>
    -- Quotation marks meet only where a name follows another one.
    cases others with
    | nil => simp
    | cons next others =>
      have hothers := ih (List.cons_ne_nil _ _)
      rw [List.map_cons] at hothers
      rw [List.map_cons, List.map_cons, String.intercalate_cons_cons, hothers,
        String.intercalate_cons_cons, itemMark]
      simp only [String.append_assoc]

/-- The listing of packages, if there are any. -/
theorem packageListing_eq {packages : List String} (h : sortNames packages ≠ []) :
    packageListing packages =
      "[ \"" ++ itemMark.intercalate (sortNames packages) ++ "\"\n  ]" := by
  rw [packageListing]
  split
  · next hnone => exact absurd hnone h
  · rw [intercalate_quoted h]
    have hbefore : "[ \"" = "[ " ++ "\"" := by decide
    have hafter : "\"\n  ]" = "\"" ++ "\n  ]" := by decide
    rw [hbefore, hafter]
    simp only [String.append_assoc]

/-- A canonical name does not end with a blank. -/
theorem isBlank_getLast?_of_canonical {name : String} (h : canonicalName name = name) :
    ∀ c ∈ name.toList.getLast?, Text.isBlank c = false := by
  rw [← h, canonicalName, String.toList_ofList, ← Text.trim_lower_trim]
  exact Text.isBlank_of_getLast?_trim _

/-- No mark is completed by the one after a canonical name: all of it but its last character would
have to be at the end of the name, which is no blank. -/
theorem not_crosses_of_canonical {name : String} (h : canonicalName name = name) :
    ¬ Text.Crosses ('"' :: markRest) name.toList := by
  rintro ⟨start, rest, hmark, hstart, hrest, hsuffix, hprefix⟩
  have hlength := congrArg List.length hmark
  rw [List.length_append] at hlength
  -- Only the last character of the mark is also its first one, so six of them come before.
  have htake : start = ('"' :: markRest).take start.length := by rw [hmark, List.take_left]
  have hdrop : rest = ('"' :: markRest).drop start.length := by rw [hmark, List.drop_left]
  have hoverlap :
      ∀ k < 7, 0 < k → ('"' :: markRest).drop k <+: '"' :: markRest → k = 6 := by
    decide
  have hsix : start.length = 6 := by
    refine hoverlap start.length ?_ (List.length_pos_iff.2 hstart) (hdrop ▸ hprefix)
    have hpositive := List.length_pos_iff.2 hrest
    change 7 = _ at hlength
    omega
  have hend : (('"' :: markRest).take 6).getLast? = some ' ' := by decide
  obtain ⟨before, hname⟩ := hsuffix
  have hlast : name.toList.getLast? = some ' ' := by
    rw [← hname, htake, hsix, List.getLast?_append, hend, Option.some_or]
  exact absurd (isBlank_getLast?_of_canonical h ' ' hlast) (by decide)

/-- A name is one item just if it does not hold the mark. -/
theorem itemsOf_eq_singleton_iff {name : String} : itemsOf name = [name] ↔ ¬ HoldsMark name := by
  rw [HoldsMark, toList_itemMark, ← Text.cut_eq_singleton_iff, itemsOf]
  constructor
  · intro h
    have hchars := congrArg (List.map String.toList) h
    simpa using hchars
  · intro h
    rw [h, List.map_singleton, String.ofList_toList]

/-- The characters of items are the pieces of the characters of names. -/
theorem map_toList_flatMap_itemsOf (names : List String) :
    (names.flatMap itemsOf).map String.toList =
      (names.map String.toList).flatMap (Text.cut '"' markRest) := by
  simp [itemsOf, List.map_flatMap, List.flatMap_map, Function.comp_def]

/-- The items of names, with the mark between any two of them, are the names with it. -/
theorem cut_intercalate_names {names : List String} (hne : names ≠ [])
    (hcanonical : ∀ name ∈ names, canonicalName name = name) :
    Text.cut '"' markRest (itemMark.intercalate names).toList =
      (names.flatMap itemsOf).map String.toList := by
  rw [String.toList_intercalate, toList_itemMark, Text.cut_intercalate, map_toList_flatMap_itemsOf]
  · exact List.forall_mem_map.2 fun name hname => not_crosses_of_canonical (hcanonical name hname)
  · simpa using hne

/-- Canonical names are read back as their items. -/
theorem readPackages?_renderBuildInfo {packages : List String}
    (hcanonical : ∀ name ∈ packages, canonicalName name = name) (version : String) :
    readPackages? version (renderBuildInfo packages version) =
      some ((sortNames packages).flatMap itemsOf) := by
  rw [readPackages?, renderBuildInfo_eq, String.toList_append, String.toList_append,
    between?_append, Option.bind_some]
  -- Without packages the listing has a form of its own.
  by_cases hnone : sortNames packages = []
  · rw [packageListing, hnone]
    rfl
  · have hsorted : ∀ name ∈ sortNames packages, canonicalName name = name := fun name hname =>
      hcanonical name (List.mem_mergeSort.1 hname)
    have hlisting : ("[ \"" ++ itemMark.intercalate (sortNames packages) ++ "\"\n  ]").toList ≠
        "[]".toList := by
      simp
    rw [packageListing_eq hnone, if_neg hlisting, String.toList_append, String.toList_append,
      between?_append, Option.map_some, itemsOf, String.toList_ofList,
      cut_intercalate_names hnone hsorted, List.map_map]
    simp

theorem itemsOf_ne_nil (name : String) : itemsOf name ≠ [] := by
  rw [itemsOf, ne_eq, List.map_eq_nil_iff]
  exact Text.cut_ne_nil _

/-- Names are made of at least as many items. -/
theorem length_le_length_flatMap_itemsOf (names : List String) :
    names.length ≤ (names.flatMap itemsOf).length := by
  induction names with
  | nil => exact Nat.le_refl _
  | cons name others ih =>
    have hitem := List.length_pos_iff.2 (itemsOf_ne_nil name)
    rw [List.flatMap_cons, List.length_append, List.length_cons]
    omega

/-- Names are their own items just if none of them holds the mark. -/
theorem flatMap_itemsOf_eq_self_iff {names : List String} :
    names.flatMap itemsOf = names ↔ ∀ name ∈ names, ¬ HoldsMark name := by
  induction names with
  | nil => simp
  | cons name others ih =>
    rw [List.forall_mem_cons, ← ih, List.flatMap_cons, ← itemsOf_eq_singleton_iff]
    constructor
    · intro h
      obtain ⟨item, items, hitems⟩ := List.exists_cons_of_ne_nil (itemsOf_ne_nil name)
      rw [hitems, List.cons_append, List.cons.injEq] at h
      obtain ⟨rfl, hrest⟩ := h
      -- More than one item of the first name would leave too few for the others.
      have hmany := length_le_length_flatMap_itemsOf others
      have hlength := congrArg List.length hrest
      rw [List.length_append] at hlength
      have hnone : items = [] := List.length_eq_zero_iff.1 (by omega)
      rw [hnone, List.nil_append] at hrest
      rw [hitems, hnone]
      exact ⟨rfl, hrest⟩
    · rintro ⟨hname, hothers⟩
      rw [hname, hothers, List.singleton_append]

/-- Names that are made of the same items have the same listing. -/
theorem packageListing_eq_of_items {packages others : List String}
    (hpackages : ∀ name ∈ packages, canonicalName name = name)
    (hothers : ∀ name ∈ others, canonicalName name = name)
    (h : (sortNames packages).flatMap itemsOf = (sortNames others).flatMap itemsOf) :
    packageListing packages = packageListing others := by
  have hnil (names : List String) : names.flatMap itemsOf = [] ↔ names = [] := by
    constructor
    · intro hnone
      have hfew := length_le_length_flatMap_itemsOf names
      rw [hnone] at hfew
      exact List.length_eq_zero_iff.1 (Nat.le_zero.1 hfew)
    · rintro rfl
      rfl
  -- The joined names are what their items are when joined.
  have hjoined {names : List String} (hne : sortNames names ≠ [])
      (hnames : ∀ name ∈ names, canonicalName name = name) :
      (itemMark.intercalate (sortNames names)).toList =
        ('"' :: markRest).intercalate (((sortNames names).flatMap itemsOf).map String.toList) := by
    rw [← cut_intercalate_names hne fun name hname => hnames name (List.mem_mergeSort.1 hname),
      Text.intercalate_cut]
  by_cases hnone : sortNames packages = []
  · rw [(hnil _).2 hnone, eq_comm, hnil] at h
    rw [packageListing, packageListing, hnone, h]
  · have hsome : sortNames others ≠ [] := by
      rwa [ne_eq, ← hnil, ← h, hnil]
    have hsame := (hjoined hnone hpackages).trans (h ▸ (hjoined hsome hothers).symm)
    rw [packageListing_eq hnone, packageListing_eq hsome, String.toList_inj.1 hsame]

namespace Workspace

/-- What the module tells of the names of packages. -/
structure TellsPackages (workspace : Workspace) (version : String) : Prop where
  /-- Reading the listing back gives the names in order just if none of them holds the mark. -/
  read_iff :
    readPackages? version (renderBuildInfo workspace.packageNames version) =
        some (sortNames workspace.packageNames) ↔
      ∀ package ∈ workspace.packages, ¬ HoldsMark package.name
  /-- Another workspace has the same module just if its names are made of the same items. -/
  eq_iff : ∀ other : Workspace,
    renderBuildInfo workspace.packageNames version =
        renderBuildInfo other.packageNames version ↔
      (sortNames workspace.packageNames).flatMap itemsOf =
        (sortNames other.packageNames).flatMap itemsOf
  /-- Without the mark in names it has the same names. -/
  determined : (∀ package ∈ workspace.packages, ¬ HoldsMark package.name) →
    ∀ other : Workspace, (∀ package ∈ other.packages, ¬ HoldsMark package.name) →
      renderBuildInfo workspace.packageNames version =
          renderBuildInfo other.packageNames version →
        sortNames workspace.packageNames = sortNames other.packageNames

/-- The names of packages are canonical. -/
theorem canonical_of_mem_packageNames (workspace : Workspace) :
    ∀ name ∈ workspace.packageNames, canonicalName name = name :=
  List.forall_mem_map.2 fun package _ => package.name_canonical

/-- The names in order are their own items just if none of the packages has the mark in its
name. -/
theorem flatMap_itemsOf_sortNames_iff (workspace : Workspace) :
    (sortNames workspace.packageNames).flatMap itemsOf = sortNames workspace.packageNames ↔
      ∀ package ∈ workspace.packages, ¬ HoldsMark package.name := by
  rw [flatMap_itemsOf_eq_self_iff]
  simp only [sortNames, List.mem_mergeSort, packageNames, List.forall_mem_map]

/-- The module tells the items of the names, and the names as far as they do not hold the mark. -/
theorem tellsPackages (workspace : Workspace) (version : String) :
    workspace.TellsPackages version := by
  have hread (workspace : Workspace) :=
    readPackages?_renderBuildInfo workspace.canonical_of_mem_packageNames version
  have heq_iff (other : Workspace) :
      renderBuildInfo workspace.packageNames version =
          renderBuildInfo other.packageNames version ↔
        (sortNames workspace.packageNames).flatMap itemsOf =
          (sortNames other.packageNames).flatMap itemsOf := by
    constructor
    · -- The same text is read back as the same items.
      intro h
      exact Option.some.inj ((hread workspace).symm.trans (h ▸ hread other))
    · intro h
      rw [renderBuildInfo_eq, renderBuildInfo_eq, packageListing_eq_of_items
        workspace.canonical_of_mem_packageNames other.canonical_of_mem_packageNames h]
  constructor
  case read_iff =>
    rw [hread, Option.some.injEq, flatMap_itemsOf_sortNames_iff]
  case eq_iff => exact heq_iff
  case determined =>
    intro hnames other hothers h
    rw [heq_iff, workspace.flatMap_itemsOf_sortNames_iff.2 hnames,
      other.flatMap_itemsOf_sortNames_iff.2 hothers] at h
    exact h

/-- A configuration of packages with names. -/
def named (names : List String) : Table Value :=
  [("workspace", .table [("packages",
    .list (names.map fun name => .table [("name", .string name)]))])]

/-- The configuration of two packages and that of one package whose name holds the mark are
accepted, and both workspaces have the same module. -/
theorem not_determined_named :
    ∃ workspace other, ofConfig (named ["a", "b"]) .here none = .ok workspace ∧
      ofConfig (named ["a\"\n  , \"b"]) .here none = .ok other ∧
      (∀ version, renderBuildInfo workspace.packageNames version =
        renderBuildInfo other.packageNames version) ∧
      sortNames workspace.packageNames ≠ sortNames other.packageNames := by
  have htwo : (ofConfig (named ["a", "b"]) .here none).toOption.map packageNames =
      some ["a", "b"] := by
    decide +kernel
  have hone : (ofConfig (named ["a\"\n  , \"b"]) .here none).toOption.map packageNames =
      some ["a\"\n  , \"b"] := by
    decide +kernel
  obtain ⟨workspace, hworkspace, hnames⟩ := Option.map_eq_some_iff.1 htwo
  obtain ⟨other, hother, hnames'⟩ := Option.map_eq_some_iff.1 hone
  have hsorted : sortNames ["a", "b"] = ["a", "b"] := List.mergeSort_of_pairwise (by decide)
  have hsorted' : sortNames ["a\"\n  , \"b"] = ["a\"\n  , \"b"] := List.mergeSort_singleton _
  refine ⟨workspace, other, toOption_eq_some_iff.1 hworkspace, toOption_eq_some_iff.1 hother,
    fun version => ?_, ?_⟩
  -- The name brings the mark between two names with it, so the listings are the same text.
  · have hlisting : packageListing ["a", "b"] = packageListing ["a\"\n  , \"b"] := by
      rw [packageListing, packageListing, hsorted, hsorted']
      decide
    rw [hnames, hnames', renderBuildInfo_eq, renderBuildInfo_eq, hlisting]
  · rw [hnames, hnames', hsorted, hsorted']
    decide

end Workspace

end BuildAudit
