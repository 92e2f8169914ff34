import Mathlib.Data.List.Infix

/-!
# Cutting lists at marks

A mark of several elements is met in reading a list from its start: where it stands it is passed as
a whole, so that marks that are met do not overlap (`cut`). The pieces with the mark between any two
of them are the list again (`intercalate_cut`), and a list is in one piece just if the mark is not
in it (`cut_eq_singleton_iff`). A list that has been put together with marks is cut there, unless
one of the parts ends with a beginning of the mark that the mark after it could complete
(`cut_intercalate`).
-/

namespace BuildAudit.Text

variable {α : Type} [DecidableEq α]

/-- The pieces of a list between the places where a mark is met. The mark is given by its first
element and those after that. -/
def cut (first : α) (more : List α) : List α → List (List α)
  | [] => [[]]
  | element :: rest =>
    if element = first ∧ more <+: rest then [] :: cut first more (rest.drop more.length)
    else (cut first more rest).modifyHead (element :: ·)
termination_by list => list.length

/-- A list ends with a beginning of a mark after which the mark can be completed by a mark that
follows. -/
def Crosses (mark list : List α) : Prop :=
  ∃ start rest, mark = start ++ rest ∧ start ≠ [] ∧ rest ≠ [] ∧ start <:+ list ∧ rest <+: mark

variable {first : α} {more list : List α}

/-- A mark at the start of a list is passed. -/
theorem cut_append (rest : List α) :
    cut first more (first :: more ++ rest) = [] :: cut first more rest := by
  rw [List.cons_append, cut, if_pos ⟨rfl, List.prefix_append _ _⟩, List.drop_left]

/-- Any other element belongs to the first piece. -/
theorem cut_cons {element : α} {rest : List α} (h : ¬ first :: more <+: element :: rest) :
    cut first more (element :: rest) = (cut first more rest).modifyHead (element :: ·) := by
  rw [List.cons_prefix_cons, eq_comm] at h
  rw [cut, if_neg h]

/-- There is always a piece. -/
theorem cut_ne_nil (list : List α) : cut first more list ≠ [] := by
  fun_induction cut first more list with
  | case1 => exact List.cons_ne_nil _ _
  | case2 => exact List.cons_ne_nil _ _
  | case3 element rest hnot ih => rwa [ne_eq, List.modifyHead_eq_nil_iff]

omit [DecidableEq α] in
/-- An element in front of the first piece is in front of the whole. -/
theorem intercalate_modifyHead_cons {mark : List α} {pieces : List (List α)} (h : pieces ≠ [])
    (element : α) :
    mark.intercalate (pieces.modifyHead (element :: ·)) = element :: mark.intercalate pieces := by
  obtain ⟨piece, others, rfl⟩ := List.exists_cons_of_ne_nil h
  cases others with
  | nil => simp
  | cons next others => simp [List.intercalate_cons_cons]

omit [DecidableEq α] in
/-- What is not in the mark is in lists with the mark between them just if it is in one of them. -/
theorem mem_intercalate_iff {x : α} {mark : List α} (hmark : x ∉ mark) {parts : List (List α)} :
    x ∈ mark.intercalate parts ↔ ∃ part ∈ parts, x ∈ part := by
  induction parts with
  | nil => simp
  | cons part others ih =>
    cases others with
    | nil => simp
    | cons next others =>
      rw [List.intercalate_cons_cons, List.mem_append, List.mem_append, ih]
      simp only [hmark, or_false, List.exists_mem_cons_iff]

/-- The pieces with the mark between any two of them are the list. -/
theorem intercalate_cut (list : List α) :
    (first :: more).intercalate (cut first more list) = list := by
  fun_induction cut first more list with
  | case1 => rfl
  | case2 element rest hmark ih =>
    obtain ⟨rfl, after, rfl⟩ := hmark
    rw [List.intercalate_cons_of_ne_nil (cut_ne_nil _), ih, List.drop_left]
    rfl
  | case3 element rest hnot ih => rw [intercalate_modifyHead_cons (cut_ne_nil rest), ih]

/-- A list with the mark in it is in several pieces. -/
theorem one_lt_length_cut (h : first :: more <:+: list) : 1 < (cut first more list).length := by
  fun_induction cut first more list with
  | case1 => cases List.eq_nil_of_infix_nil h
  | case2 element rest hmark ih =>
    have hsome : cut first more (rest.drop more.length) ≠ [] := cut_ne_nil _
    have hmany := List.length_pos_iff.2 hsome
    rw [List.length_cons]
    omega
  | case3 element rest hnot ih =>
    rw [List.length_modifyHead]
    rw [List.infix_cons_iff, List.cons_prefix_cons, eq_comm] at h
    exact ih (h.resolve_left hnot)

/-- A list is in one piece just if the mark is not in it. -/
theorem cut_eq_singleton_iff : cut first more list = [list] ↔ ¬ first :: more <:+: list := by
  constructor
  · intro h hinfix
    have hmany := one_lt_length_cut hinfix
    rw [h] at hmany
    exact absurd hmany (lt_irrefl _)
  · intro hnot
    -- Of several pieces the first would stand before a mark.
    have hsome : cut first more list ≠ [] := cut_ne_nil list
    have hwhole : (first :: more).intercalate (cut first more list) = list := intercalate_cut list
    obtain ⟨piece, others, hpieces⟩ := List.exists_cons_of_ne_nil hsome
    rw [hpieces] at hwhole ⊢
    cases others with
    | nil => rw [← hwhole, List.intercalate_singleton]
    | cons next others =>
      rw [List.intercalate_cons_cons] at hwhole
      exact absurd ⟨_, _, hwhole⟩ hnot

omit [DecidableEq α] in
theorem Crosses.of_suffix {mark list front : List α} (h : Crosses mark list)
    (hsuffix : list <:+ front) : Crosses mark front := by
  obtain ⟨start, rest, hmark, hstart, hrest, hend, hbegin⟩ := h
  exact ⟨start, rest, hmark, hstart, hrest, hend.trans hsuffix, hbegin⟩

omit [DecidableEq α] in
/-- A mark that is met across the place where a mark follows completes a beginning of itself. -/
theorem not_prefix_append {mark front : List α} (hcrosses : ¬ Crosses mark front)
    (hne : front ≠ []) (hnot : ¬ mark <+: front) (rest : List α) :
    ¬ mark <+: front ++ (mark ++ rest) := by
  intro hmark
  -- Either the mark lies in front of the one that follows or it ends inside that.
  rcases List.prefix_or_prefix_of_prefix hmark (List.prefix_append front _) with hfront | hfront
  · exact hnot hfront
  · obtain ⟨others, rfl⟩ := hfront
    have hothers : others <+: front ++ others := by
      rw [List.prefix_append_right_inj] at hmark
      refine List.prefix_of_prefix_length_le hmark (List.prefix_append _ _) ?_
      rw [List.length_append]
      exact Nat.le_add_left _ _
    refine hcrosses ⟨front, others, rfl, hne, ?_, List.suffix_rfl, hothers⟩
    rintro rfl
    exact hnot (by rw [List.append_nil])

/-- A list is cut at a mark that was put in it, if no mark is met across the start of that one. -/
theorem cut_append_append {front : List α} (h : ¬ Crosses (first :: more) front) (rest : List α) :
    cut first more (front ++ (first :: more ++ rest)) =
      cut first more front ++ cut first more rest := by
  fun_induction cut first more front with
  | case1 => rw [List.nil_append, cut_append, List.singleton_append]
  | case2 element others hmark ih =>
    obtain ⟨rfl, after, rfl⟩ := hmark
    rw [List.drop_left] at ih ⊢
    have hafter := ih fun hcrosses =>
      h (hcrosses.of_suffix (List.suffix_append (element :: more) after))
    rw [← List.cons_append, List.append_assoc, cut_append, hafter, List.cons_append]
  | case3 element others hnot ih =>
    rw [eq_comm, ← List.cons_prefix_cons] at hnot
    have hnext := not_prefix_append h (List.cons_ne_nil _ _) hnot rest
    rw [List.cons_append] at hnext ⊢
    rw [cut_cons hnext, ih fun hcrosses => h (hcrosses.of_suffix (List.suffix_cons _ _))]
    have hsome : cut first more others ≠ [] := cut_ne_nil others
    obtain ⟨piece, pieces, hpieces⟩ := List.exists_cons_of_ne_nil hsome
    rw [hpieces]
    rfl

/-- Parts with the mark between any two of them are cut there and where they have it themselves. -/
theorem cut_intercalate {parts : List (List α)}
    (h : ∀ part ∈ parts, ¬ Crosses (first :: more) part) (hne : parts ≠ []) :
    cut first more ((first :: more).intercalate parts) = parts.flatMap (cut first more) := by
  induction parts with
  | nil => exact absurd rfl hne
  | cons part others ih =>
    obtain ⟨hpart, hothers⟩ := List.forall_mem_cons.1 h
    cases others with
    | nil => simp
    | cons next others =>
      rw [List.flatMap_cons, List.intercalate_cons_cons, List.append_assoc,
        cut_append_append hpart, ih hothers (List.cons_ne_nil _ _)]

end BuildAudit.Text
