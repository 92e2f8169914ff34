/-!
# Cutting texts at marks

A text is cut at every place where a mark stands, or at the first one only.
-/

namespace BuildAudit.Text

variable {α : Type} [DecidableEq α]

/-- The pieces of a text between the places where a mark stands. -/
def pieces (mark : α) : List α → List (List α)
  | [] => [[]]
  | c :: rest =>
    if c = mark then [] :: pieces mark rest
    else
      match pieces mark rest with
      | [] => [[c]]
      | piece :: more => (c :: piece) :: more

/-- There is always a piece. -/
theorem pieces_ne_nil (mark : α) (cs : List α) : pieces mark cs ≠ [] := by
  cases cs with
  | nil => simp [pieces]
  | cons c rest =>
    simp only [pieces]
    split
    · simp
    · split <;> simp

/-- What stands before the first mark, and what follows the mark, unless there is no mark or one of
the characters before it is excluded. -/
def cutAt? (mark : Char) (excluded : Char → Bool) : List Char → Option (List Char × List Char)
  | [] => none
  | c :: rest =>
    if c = mark then some ([], rest)
    else if excluded c then none
    else (cutAt? mark excluded rest).map fun parts => (c :: parts.1, parts.2)

/-- Where a text can be cut, it is the part before the mark, the mark and the part after it. -/
theorem eq_of_cutAt? {mark : Char} {excluded : Char → Bool} {cs before after : List Char}
    (h : cutAt? mark excluded cs = some (before, after)) : cs = before ++ mark :: after := by
  induction cs generalizing before with
  | nil => simp [cutAt?] at h
  | cons c rest ih =>
    simp only [cutAt?] at h
    split at h
    · next hc =>
      simp only [Option.some.injEq, Prod.mk.injEq] at h
      obtain ⟨rfl, rfl⟩ := h
      simp [hc]
    · split at h
      · simp at h
      · simp only [Option.map_eq_some_iff, Prod.mk.injEq] at h
        obtain ⟨⟨first, last⟩, hcut, rfl, rfl⟩ := h
        simp [ih hcut]

/-- What follows a mark is shorter than the text. -/
theorem length_lt_of_cutAt? {mark : Char} {excluded : Char → Bool} {cs before after : List Char}
    (h : cutAt? mark excluded cs = some (before, after)) : after.length < cs.length := by
  rw [eq_of_cutAt? h]
  simp only [List.length_append, List.length_cons]
  omega

end BuildAudit.Text
