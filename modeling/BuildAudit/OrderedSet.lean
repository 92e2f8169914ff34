/-!
# Ordered sets

A set is kept as its elements in ascending order, each once, so that equal sets are equal lists and
every listing of a set comes out in the same order. Texts are ordered by their code points.
-/

namespace BuildAudit

/-- Elements in ascending order without repetition. -/
abbrev OrderedSet (α : Type) := List α

/-- A set of names. -/
abbrev NameSet := OrderedSet String

namespace OrderedSet

variable {α : Type} [DecidableEq α]

/-- The elements of the first set that are not in the second. -/
def diff (left right : OrderedSet α) : OrderedSet α :=
  left.filter fun element => !right.contains element

/-- The difference has the elements of the first set that the second one lacks. -/
@[simp]
theorem mem_diff {x : α} {left right : OrderedSet α} :
    x ∈ diff left right ↔ x ∈ left ∧ x ∉ right := by
  simp [diff]

variable [LT α] [DecidableLT α]

/-- Adds an element to a set. -/
def insert (element : α) : OrderedSet α → OrderedSet α
  | [] => [element]
  | least :: rest =>
    if element < least then element :: least :: rest
    else if element = least then least :: rest
    else least :: insert element rest

/-- The set of the elements of a list. -/
def ofList (elements : List α) : OrderedSet α :=
  elements.foldr insert []

/-- Adding an element adds just that element. -/
@[simp]
theorem mem_insert {element x : α} {set : OrderedSet α} :
    x ∈ insert element set ↔ x = element ∨ x ∈ set := by
  induction set with
  | nil => simp [insert]
  | cons least rest ih =>
    simp only [insert]
    split
    · simp
    · split
      · next h => simp [h]
      · simp only [List.mem_cons, ih]
        constructor <;> rintro (h | h | h) <;> simp [h]

/-- The set of a list has the elements of the list. -/
@[simp]
theorem mem_ofList {x : α} {elements : List α} : x ∈ ofList elements ↔ x ∈ elements := by
  induction elements with
  | nil => simp [ofList]
  | cons element rest ih => simpa [ofList] using or_congr_right ih

end OrderedSet

/-- The names in ascending order, repetitions kept. -/
def sortNames (names : List String) : List String :=
  names.mergeSort fun a b => decide (a ≤ b)

end BuildAudit
