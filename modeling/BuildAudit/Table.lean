/-!
# Ordered tables

A table lists its entries in the order in which their keys were first given. Giving a key again
replaces its value and leaves its place.
-/

namespace BuildAudit

/-- Entries in the order of their keys' first mention. -/
abbrev Table (α : Type) (κ : Type := String) := List (κ × α)

namespace Table

variable {α κ : Type} [DecidableEq κ]

/-- The value of a key. -/
def get? (table : Table α κ) (key : κ) : Option α :=
  table.lookup key

/-- Whether the table has an entry for a key. -/
def hasKey (table : Table α κ) (key : κ) : Bool :=
  table.any (·.1 == key)

/-- The keys in order. -/
def keys (table : Table α κ) : List κ :=
  table.map (·.1)

/-- The values in order. -/
def values (table : Table α κ) : List α :=
  table.map (·.2)

/-- Sets the value of a key, in its place if it has one and at the end if not. -/
def insert (table : Table α κ) (key : κ) (value : α) : Table α κ :=
  match table with
  | [] => [(key, value)]
  | entry :: rest =>
    if entry.1 = key then (key, value) :: rest else entry :: insert rest key value

/-- Removes the entry of a key. -/
def erase (table : Table α κ) (key : κ) : Table α κ :=
  table.filter (·.1 != key)

/-- The table that the entries give one after the other. -/
def ofEntries (entries : List (κ × α)) : Table α κ :=
  entries.foldl (fun table entry => insert table entry.1 entry.2) []

/-- Sets every entry of `upper` in `lower`. -/
def overlay (lower upper : Table α κ) : Table α κ :=
  upper.foldl (fun table entry => insert table entry.1 entry.2) lower

/-- The entries in ascending order of their keys. -/
def sorted [LT κ] [DecidableLT κ] (table : Table α κ) : Table α κ :=
  table.mergeSort fun a b => !decide (b.1 < a.1)

/-- The value that is set is the value of its key. -/
@[simp]
theorem get?_insert_self (table : Table α κ) (key : κ) (value : α) :
    (insert table key value).get? key = some value := by
  induction table with
  | nil => simp [insert, get?]
  | cons entry rest ih =>
    obtain ⟨name, held⟩ := entry
    simp only [insert]
    split
    · simp [get?]
    · next h =>
      have hne : (key == name) = false := by simpa using Ne.symm h
      simpa [get?, List.lookup_cons, hne] using ih

/-- Setting the value of a key leaves the values of all other keys. -/
theorem get?_insert_of_ne {key other : κ} (h : other ≠ key) (table : Table α κ) (value : α) :
    (insert table key value).get? other = table.get? other := by
  have hne : (other == key) = false := by simpa using h
  induction table with
  | nil => simp [insert, get?, List.lookup_cons, hne]
  | cons entry rest ih =>
    obtain ⟨name, held⟩ := entry
    simp only [insert]
    split
    · next heq => simp [get?, List.lookup_cons, show name = key from heq, hne]
    · simp only [get?, List.lookup_cons] at ih ⊢
      rw [ih]

/-- Setting a value adds its key at the end if the table lacks it. -/
theorem keys_insert (table : Table α κ) (key : κ) (value : α) :
    (insert table key value).keys =
      if key ∈ table.keys then table.keys else table.keys ++ [key] := by
  induction table with
  | nil => simp [insert, keys]
  | cons entry rest ih =>
    simp only [insert]
    split
    · next h => simp [keys, h]
    · next h =>
      have hne : ¬ key = entry.1 := fun heq => h heq.symm
      simp only [keys, List.map_cons, List.mem_cons, hne, false_or] at ih ⊢
      split <;> simp_all

end Table

end BuildAudit
