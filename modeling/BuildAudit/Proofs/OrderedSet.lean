import BuildAudit.OrderedSet
import BuildAudit.Table
import Mathlib.Data.String.Basic
import Mathlib.Order.RelClasses

/-!
# The order of sets and tables

A set lists its elements in ascending order, which fixes the list (`Enumerates`). A table
that was made by setting its entries one after the other has distinct keys, so that its entries and
its values for keys are the same thing. Putting a table in order changes nothing if its keys are
ascending.
-/

namespace BuildAudit

/-- A list has just the elements with a property, in ascending order and each once. -/
structure Enumerates {α : Type} [LT α] (elements : List α) (property : α → Prop) : Prop where
  /-- The elements are in ascending order without repetition. -/
  ascending : elements.Pairwise (· < ·)
  /-- The elements are those with the property. -/
  mem_iff : ∀ element, element ∈ elements ↔ property element

section Enumerates

variable {α : Type} [LT α] {elements : List α} {property property' : α → Prop}

/-- Elements that are enumerated are distinct. -/
theorem Enumerates.nodup [Std.Irrefl (@LT.lt α _)] (h : Enumerates elements property) :
    elements.Nodup := by
  refine h.ascending.imp fun {element other} hlt heq => ?_
  rw [heq] at hlt
  exact Std.Irrefl.irrefl other hlt

/-- Elements are enumerated for every property that means the same. -/
theorem Enumerates.congr (h : Enumerates elements property)
    (hsame : ∀ element, property element ↔ property' element) :
    Enumerates elements property' where
  ascending := h.ascending
  mem_iff element := (h.mem_iff element).trans (hsame element)

end Enumerates

namespace OrderedSet

section Order

variable {α : Type} [DecidableEq α] [LT α] [DecidableLT α] [IsStrictTotalOrder α (· < ·)]

/-- Adding an element to elements in ascending order leaves them so. -/
theorem pairwise_insert (element : α) {set : OrderedSet α} (h : set.Pairwise (· < ·)) :
    (insert element set).Pairwise (· < ·) := by
  induction set with
  | nil => exact List.pairwise_singleton _ _
  | cons least rest ih =>
    obtain ⟨hleast, hrest⟩ := List.pairwise_cons.1 h
    rw [insert]
    split
    · next hlt =>
      refine List.pairwise_cons.2 ⟨fun other hother => ?_, h⟩
      rcases List.mem_cons.1 hother with rfl | hother
      · exact hlt
      · exact IsTrans.trans _ _ _ hlt (hleast other hother)
    · next hnot =>
      split
      · exact h
      · next hne =>
        refine List.pairwise_cons.2 ⟨fun other hother => ?_, ih hrest⟩
        rcases mem_insert.1 hother with rfl | hother
        · by_cases hlt : least < other
          · exact hlt
          · exact absurd (Std.Trichotomous.trichotomous _ _ hnot hlt) hne
        · exact hleast other hother

/-- A set has its elements in ascending order. -/
theorem pairwise_ofList (elements : List α) : (ofList elements).Pairwise (· < ·) := by
  induction elements with
  | nil => exact .nil
  | cons element rest ih => exact pairwise_insert element ih

/-- The set of a list enumerates the elements of the list. -/
theorem enumerates_ofList (elements : List α) : Enumerates (ofList elements) (· ∈ elements) where
  ascending := pairwise_ofList elements
  mem_iff _ := mem_ofList

end Order

/-- Elements in ascending order are the set of themselves. -/
theorem ofList_eq_self {α : Type} [DecidableEq α] [LT α] [DecidableLT α] {elements : List α}
    (h : elements.Pairwise (· < ·)) : ofList elements = elements := by
  induction elements with
  | nil => rfl
  | cons element rest ih =>
    obtain ⟨helement, hrest⟩ := List.pairwise_cons.1 h
    have hset : ofList (element :: rest) = insert element rest :=
      congrArg (insert element) (ih hrest)
    rw [hset]
    cases rest with
    | nil => rfl
    | cons next more => rw [insert, if_pos (helement next (.head _))]

end OrderedSet

namespace Table

variable {α κ : Type} [DecidableEq κ]

omit [DecidableEq κ] in
theorem mem_keys {table : Table α κ} {key : κ} :
    key ∈ table.keys ↔ ∃ value, (key, value) ∈ table := by
  rw [keys, List.mem_map]
  constructor
  · rintro ⟨⟨_, value⟩, hmem, rfl⟩
    exact ⟨value, hmem⟩
  · rintro ⟨value, hmem⟩
    exact ⟨(key, value), hmem, rfl⟩

theorem hasKey_iff {table : Table α κ} {key : κ} :
    table.hasKey key = true ↔ key ∈ table.keys := by
  rw [hasKey, List.any_eq_true, keys, List.mem_map]
  simp only [beq_iff_eq]

/-- The value of a key is that of an entry. -/
theorem mem_of_get? {table : Table α κ} {key : κ} {value : α}
    (h : table.get? key = some value) : (key, value) ∈ table := by
  induction table with
  | nil => cases h
  | cons entry rest ih =>
    obtain ⟨name, held⟩ := entry
    rw [get?, List.lookup_cons] at h
    split at h
    · next heq =>
      cases h
      rw [beq_iff_eq.1 heq]
      exact .head _
    · exact .tail _ (ih h)

/-- With distinct keys the value of a key is that of its entry. -/
theorem get?_eq_some_iff {table : Table α κ} (h : table.keys.Nodup) {key : κ} {value : α} :
    table.get? key = some value ↔ (key, value) ∈ table := by
  refine ⟨mem_of_get?, fun hmem => ?_⟩
  induction table with
  | nil => cases hmem
  | cons entry rest ih =>
    obtain ⟨name, held⟩ := entry
    rw [keys, List.map_cons, List.nodup_cons] at h
    rw [get?, List.lookup_cons]
    rcases List.mem_cons.1 hmem with heq | hlater
    · cases heq
      rw [beq_self_eq_true]
    · have hne : (key == name) = false := by
        rw [beq_eq_false_iff_ne]
        rintro rfl
        exact h.1 (mem_keys.2 ⟨value, hlater⟩)
      rw [hne]
      exact ih h.2 hlater

/-- Setting a value keeps the keys distinct. -/
theorem nodup_keys_insert {table : Table α κ} (h : table.keys.Nodup) (key : κ) (value : α) :
    (table.insert key value).keys.Nodup := by
  rw [keys_insert]
  split
  · exact h
  · next hnot =>
    refine List.nodup_append.2 ⟨h, List.pairwise_singleton _ key, ?_⟩
    rintro name hname other hother rfl
    rw [List.mem_singleton.1 hother] at hname
    exact hnot hname

/-- A table that its entries give one after the other has distinct keys. -/
theorem nodup_keys_ofEntries (entries : List (κ × α)) : (ofEntries entries).keys.Nodup := by
  have hfold (entries : List (κ × α)) (table : Table α κ) (h : table.keys.Nodup) :
      (entries.foldl (fun table entry => insert table entry.1 entry.2) table).keys.Nodup := by
    induction entries generalizing table with
    | nil => exact h
    | cons entry rest ih => exact ih _ (nodup_keys_insert h entry.1 entry.2)
  exact hfold entries [] .nil

omit [DecidableEq κ] in
/-- Entries that are made for some of a list of names have these names as keys, in their order. -/
theorem keys_filterMap_sublist {entryOf? : κ → Option (κ × α)}
    (h : ∀ name entry, entryOf? name = some entry → entry.1 = name) (names : List κ) :
    (keys (names.filterMap entryOf?)).Sublist names := by
  induction names with
  | nil => exact .refl _
  | cons name rest ih =>
    rw [List.filterMap_cons]
    split
    · exact ih.cons name
    · next entry hentry =>
      rw [keys, List.map_cons, h name entry hentry]
      exact ih.cons_cons name

omit [DecidableEq κ] in
/-- A table whose keys are ascending is in order. -/
theorem sorted_eq_self [LT κ] [DecidableLT κ] [Std.Asymm (@LT.lt κ _)] {table : Table α κ}
    (h : table.keys.Pairwise (· < ·)) :
    table.sorted = table := by
  refine List.mergeSort_of_pairwise ((List.pairwise_map.1 h).imp fun hlt => ?_)
  rw [decide_eq_false (Std.Asymm.asymm _ _ hlt), Bool.not_false]

end Table

/-- Names come in the same order in whatever order they are given. -/
theorem sortNames_perm {names again : List String} (h : again.Perm names) :
    sortNames again = sortNames names := by
  have hordered (names : List String) : (sortNames names).Pairwise (· ≤ ·) := by
    refine (List.pairwise_mergeSort ?_ ?_ names).imp of_decide_eq_true
    · intro first second third h h'
      exact decide_eq_true (String.le_trans (of_decide_eq_true h) (of_decide_eq_true h'))
    · intro first second
      rw [Bool.or_eq_true]
      exact (String.le_total first second).imp decide_eq_true decide_eq_true
  refine List.Perm.eq_of_pairwise (fun _ _ _ _ => String.le_antisymm) (hordered _) (hordered _) ?_
  exact (List.mergeSort_perm _ _).trans (h.trans (List.mergeSort_perm _ _).symm)

end BuildAudit
