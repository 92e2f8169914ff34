import BuildAudit.Proofs.OrderedSet

/-!
# Values in tables

What the value of a key is after a table has been changed. Laying one table over another keeps the
values of the upper one and leaves the others of the lower one (`get?_overlay`), so that tables laid
over each other give for each key the value of the highest table that has one.
-/

namespace BuildAudit.Table

variable {α κ : Type} [DecidableEq κ]

/-- A key has no value just if it is not a key of the table. -/
theorem get?_eq_none_iff {table : Table α κ} {key : κ} :
    table.get? key = none ↔ key ∉ table.keys := by
  rw [get?, List.lookup_eq_none_iff, keys, List.mem_map]
  simp only [bne_iff_ne]
  constructor
  · rintro h ⟨entry, hentry, rfl⟩
    exact h entry hentry rfl
  · intro h entry hentry heq
    exact h ⟨entry, hentry, heq.symm⟩

/-- A key has a value just if it is a key of the table. -/
theorem isSome_get?_iff {table : Table α κ} {key : κ} :
    (table.get? key).isSome = true ↔ key ∈ table.keys := by
  rw [Option.isSome_iff_ne_none, ne_eq, get?_eq_none_iff, Decidable.not_not]

/-- The value of a key after one has been set. -/
theorem get?_insert (table : Table α κ) (key other : κ) (value : α) :
    (insert table key value).get? other =
      if other = key then some value else table.get? other := by
  by_cases h : other = key
  · simp [h]
  · rw [if_neg h, get?_insert_of_ne h]

/-- The first entry of a table gives the value of its key. -/
theorem get?_cons (key other : κ) (value : α) (rest : Table α κ) :
    Table.get? ((key, value) :: rest) other =
      if other = key then some value else Table.get? rest other := by
  by_cases h : other = key
  · simp [get?, h]
  · have hne : (other == key) = false := by simpa using h
    simp [get?, List.lookup_cons, hne, h]

/-- Changing all values changes the value of a key. -/
theorem get?_map {β : Type} (table : Table α κ) (change : α → β) (key : κ) :
    Table.get? (table.map fun entry => (entry.1, change entry.2)) key =
      (table.get? key).map change := by
  induction table with
  | nil => rfl
  | cons entry rest ih =>
    obtain ⟨name, value⟩ := entry
    rw [List.map_cons, get?_cons, get?_cons, ih]
    split <;> rfl

/-- Entries of a table after a value has been set are that one and earlier ones. -/
theorem mem_of_mem_insert {table : Table α κ} {key : κ} {value : α} {entry : κ × α}
    (h : entry ∈ insert table key value) : entry = (key, value) ∨ entry ∈ table := by
  induction table with
  | nil => simpa [insert] using h
  | cons first rest ih =>
    rw [insert] at h
    split at h
    · rcases List.mem_cons.1 h with rfl | hmem
      · exact Or.inl rfl
      · exact Or.inr (.tail _ hmem)
    · rcases List.mem_cons.1 h with rfl | hmem
      · exact Or.inr (.head _)
      · exact (ih hmem).imp_right (.tail _)

/-- The keys after a value has been set are its key and the earlier ones. -/
theorem mem_keys_insert {table : Table α κ} {key other : κ} {value : α} :
    other ∈ (insert table key value).keys ↔ other = key ∨ other ∈ table.keys := by
  rw [keys_insert]
  split <;> simp_all [or_comm]

/-- A new key comes last. -/
theorem insert_eq_append {table : Table α κ} {key : κ} (h : key ∉ table.keys) (value : α) :
    insert table key value = table ++ [(key, value)] := by
  induction table with
  | nil => rfl
  | cons first rest ih =>
    rw [keys, List.map_cons, List.mem_cons, not_or] at h
    rw [insert, if_neg (Ne.symm h.1), ih h.2, List.cons_append]

/-- A table that is laid over one with other keys comes after it. -/
theorem overlay_eq_append {lower upper : Table α κ} (h : (Table.keys (lower ++ upper)).Nodup) :
    lower.overlay upper = lower ++ upper := by
  induction upper generalizing lower with
  | nil => simp [overlay]
  | cons first rest ih =>
    have hnew : first.1 ∉ lower.keys := by
      intro hmem
      rw [keys, List.map_append] at h
      exact (List.nodup_append.1 h).2.2 first.1 hmem first.1 (.head _) rfl
    have hstep := @ih (lower ++ [first]) (by simpa using h)
    rw [overlay] at hstep ⊢
    rw [List.foldl_cons, insert_eq_append hnew, hstep, List.append_assoc, List.singleton_append]

/-- Entries with distinct keys are a table as they are. -/
theorem ofEntries_eq_self {entries : Table α κ} (h : entries.keys.Nodup) :
    ofEntries entries = entries :=
  overlay_eq_append h

/-- Entries of a table that is laid over another one are entries of the one or the other. -/
theorem mem_of_mem_overlay {lower upper : Table α κ} {entry : κ × α}
    (h : entry ∈ lower.overlay upper) : entry ∈ upper ∨ entry ∈ lower := by
  induction upper generalizing lower with
  | nil => exact Or.inr h
  | cons first rest ih =>
    rcases @ih (insert lower first.1 first.2) h with hrest | hstep
    · exact Or.inl (.tail _ hrest)
    · rcases mem_of_mem_insert hstep with rfl | hlower
      · exact Or.inl (.head _)
      · exact Or.inr hlower

/-- The entries of a table after a value has been set. -/
theorem mem_insert_iff {table : Table α κ} (h : table.keys.Nodup) {key name : κ}
    {value held : α} : (key, value) ∈ table.insert name held ↔
      key = name ∧ value = held ∨ key ≠ name ∧ (key, value) ∈ table := by
  rw [← get?_eq_some_iff (nodup_keys_insert h name held), get?_insert, ← get?_eq_some_iff h]
  by_cases hname : key = name <;> simp [hname, eq_comm]

/-- An entry is the last one with its key. -/
def IsLast (entries : Table α κ) (key : κ) (value : α) : Prop :=
  ∃ before after, entries = before ++ (key, value) :: after ∧ key ∉ Table.keys after

omit [DecidableEq κ] in
theorem IsLast.mem {entries : Table α κ} {key : κ} {value : α} (h : IsLast entries key value) :
    (key, value) ∈ entries := by
  obtain ⟨before, after, rfl, -⟩ := h
  exact List.mem_append_right _ (.head _)

omit [DecidableEq κ] in
/-- The last entry with a key is the first one of all or the last one of the rest. -/
theorem isLast_cons_iff {first : κ × α} {rest : Table α κ} {key : κ} {value : α} :
    IsLast (first :: rest) key value ↔
      first = (key, value) ∧ key ∉ rest.keys ∨ IsLast rest key value := by
  constructor
  · rintro ⟨before, after, heq, hafter⟩
    rcases List.cons_eq_append_iff.1 heq with ⟨rfl, hsame⟩ | ⟨others, rfl, rfl⟩
    · cases hsame
      exact Or.inl ⟨rfl, hafter⟩
    · exact Or.inr ⟨others, after, rfl, hafter⟩
  · rintro (⟨rfl, hrest⟩ | ⟨before, after, rfl, hafter⟩)
    · exact ⟨[], rest, rfl, hrest⟩
    · exact ⟨first :: before, after, rfl, hafter⟩

/-- Of tables that are laid over each other the last entries of the upper one are kept, and those of
the lower one whose keys the upper one lacks. -/
theorem mem_overlay_iff {lower upper : Table α κ} (h : lower.keys.Nodup) {key : κ} {value : α} :
    (key, value) ∈ lower.overlay upper ↔
      IsLast upper key value ∨ (key, value) ∈ lower ∧ key ∉ upper.keys := by
  induction upper generalizing lower with
  | nil => simp [overlay, IsLast, keys]
  | cons first rest ih =>
    obtain ⟨name, held⟩ := first
    have hstep := ih (nodup_keys_insert h name held)
    rw [overlay] at hstep ⊢
    rw [List.foldl_cons, hstep, mem_insert_iff h, isLast_cons_iff, Prod.mk.injEq, keys, keys,
      List.map_cons, List.mem_cons]
    grind

/-- Of entries that are given one after the other the last ones with their keys are kept. -/
theorem mem_ofEntries_iff {entries : Table α κ} {key : κ} {value : α} :
    (key, value) ∈ ofEntries entries ↔ IsLast entries key value := by
  have hnone : (Table.keys ([] : Table α κ)).Nodup := List.nodup_nil
  refine (mem_overlay_iff hnone).trans (or_iff_left ?_)
  exact fun h => List.not_mem_nil h.1

/-- Tables that are laid over each other have the keys of both. -/
theorem mem_keys_overlay {lower upper : Table α κ} {key : κ} :
    key ∈ (lower.overlay upper).keys ↔ key ∈ upper.keys ∨ key ∈ lower.keys := by
  induction upper generalizing lower with
  | nil => simp [overlay, keys]
  | cons first rest ih =>
    have hstep := @ih (insert lower first.1 first.2)
    rw [overlay] at hstep ⊢
    rw [List.foldl_cons, hstep, mem_keys_insert, or_left_comm, ← or_assoc]
    simp only [keys, List.map_cons, List.mem_cons]

/-- Of tables that are laid over each other the upper one counts where it has a value. -/
theorem get?_overlay (lower : Table α κ) {upper : Table α κ} (h : upper.keys.Nodup) (key : κ) :
    (lower.overlay upper).get? key = (upper.get? key).or (lower.get? key) := by
  induction upper generalizing lower with
  | nil => rfl
  | cons entry rest ih =>
    obtain ⟨name, value⟩ := entry
    rw [keys, List.map_cons, List.nodup_cons] at h
    have hstep := ih (insert lower name value) h.2
    rw [overlay] at hstep ⊢
    rw [List.foldl_cons, hstep, get?_insert, get?_cons]
    split
    -- The entries after the first one have other keys.
    · next heq => rw [heq, get?_eq_none_iff.2 h.1, Option.none_or, Option.some_or]
    · rfl

/-- The value of a key after one has been removed. -/
theorem get?_erase (table : Table α κ) (key other : κ) :
    (table.erase key).get? other = if other = key then none else table.get? other := by
  induction table with
  | nil => simp [erase, get?]
  | cons entry rest ih =>
    obtain ⟨name, value⟩ := entry
    rw [erase] at ih ⊢
    rw [List.filter_cons]
    by_cases hname : name = key
    · subst hname
      simp only [bne_self_eq_false, Bool.false_eq_true, if_false, ih, get?_cons]
      by_cases hother : other = name <;> simp [hother]
    · rw [if_pos (by simpa using hname), get?_cons, get?_cons, ih]
      by_cases hother : other = name
      · simp [hother, hname]
      · simp [hother]

/-- With distinct keys, the value of a key among the entries whose values are kept. -/
theorem get?_filter {table : Table α κ} (h : table.keys.Nodup) (keep : α → Bool) (key : κ) :
    Table.get? (table.filter (keep ·.2)) key = (table.get? key).filter keep := by
  induction table with
  | nil => rfl
  | cons entry rest ih =>
    obtain ⟨name, value⟩ := entry
    rw [keys, List.map_cons, List.nodup_cons] at h
    rw [List.filter_cons, get?_cons]
    by_cases hname : key = name
    · subst hname
      have hnone : Table.get? (rest.filter (keep ·.2)) key = none := by
        rw [ih h.2, get?_eq_none_iff.2 h.1, Option.filter_none]
      by_cases hkeep : keep value = true
      · simp [hkeep, get?_cons, Option.filter]
      · simp [hkeep, hnone, Option.filter]
    · by_cases hkeep : keep value = true
      · simp [hkeep, hname, get?_cons, ih h.2]
      · simp [hkeep, hname, ih h.2]

omit [DecidableEq κ] in
/-- Removing entries keeps the keys distinct. -/
theorem nodup_keys_filter {table : Table α κ} (h : table.keys.Nodup) (keep : κ × α → Bool) :
    (Table.keys (table.filter keep)).Nodup :=
  h.sublist (List.filter_sublist.map _)

end BuildAudit.Table
