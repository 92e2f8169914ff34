import Mathlib.Data.List.Forall2

/-!
# Checks in sequence

A computation that may fail succeeds with a result just if each of its steps succeeds with one that
leads there.
-/

namespace BuildAudit

variable {ε ε' α β : Type}

/-- Checks in sequence succeed just if each of them does. -/
theorem bind_eq_ok_iff {first : Except ε α} {next : α → Except ε β} {result : β} :
    (first >>= next) = .ok result ↔ ∃ value, first = .ok value ∧ next value = .ok result := by
  cases first with
  | error failure =>
    constructor
    · intro h
      cases h
    · rintro ⟨value, h, -⟩
      cases h
  | ok value =>
    constructor
    · intro h
      exact ⟨value, rfl, h⟩
    · rintro ⟨other, heq, h⟩
      cases heq
      exact h

/-- A result is changed only if there is one. -/
theorem map_eq_ok_iff {first : Except ε α} {change : α → β} {result : β} :
    first.map change = .ok result ↔ ∃ value, first = .ok value ∧ change value = result := by
  cases first <;> simp [Except.map]

/-- Wording a failure in another way leaves the results. -/
theorem mapError_eq_ok_iff {first : Except ε α} {reword : ε → ε'} {result : α} :
    first.mapError reword = .ok result ↔ first = .ok result := by
  cases first with
  | error failure =>
    constructor
    · intro h
      cases h
    · intro h
      cases h
  | ok value =>
    constructor
    · intro h
      cases h
      rfl
    · intro h
      cases h
      rfl

/-- A failure that is worded in another way comes from one that was there. -/
theorem mapError_eq_error_iff {first : Except ε α} {reword : ε → ε'} {failure : ε'} :
    first.mapError reword = .error failure ↔
      ∃ cause, first = .error cause ∧ reword cause = failure := by
  cases first with
  | error cause =>
    constructor
    · intro h
      cases h
      exact ⟨cause, rfl, rfl⟩
    · rintro ⟨other, heq, h⟩
      cases heq
      rw [← h]
      rfl
  | ok value =>
    constructor
    · intro h
      cases h
    · rintro ⟨cause, heq, -⟩
      cases heq

/-- A computation has a result just if it succeeds with it. -/
theorem toOption_eq_some_iff {first : Except ε α} {result : α} :
    first.toOption = some result ↔ first = .ok result := by
  cases first <;> simp [Except.toOption]

/-- There are results in order just if there is each of them. -/
theorem mapM_eq_ok_iff {f : α → Except ε β} {list : List α} {results : List β} :
    list.mapM f = .ok results ↔ list.map f = results.map .ok := by
  induction list generalizing results with
  | nil =>
    rw [List.mapM_nil, List.map_nil, eq_comm, eq_comm (b := results.map _), List.map_eq_nil_iff]
    exact ⟨fun h => Except.ok.inj h, fun h => congrArg Except.ok h⟩
  | cons item rest ih =>
    rw [List.mapM_cons, List.map_cons, eq_comm (b := results.map _), List.map_eq_cons_iff]
    constructor
    · intro h
      rcases hfirst : f item with failure | first
      · rw [hfirst] at h
        cases h
      · rw [hfirst] at h
        rcases hrest : rest.mapM f with failure | others
        · rw [hrest] at h
          cases h
        · rw [hrest] at h
          exact ⟨first, others, (Except.ok.inj h).symm, rfl, (ih.1 hrest).symm⟩
    · rintro ⟨first, others, rfl, hfirst, hothers⟩
      rw [← hfirst, ih.2 hothers.symm]
      rfl

/-- Results in order are results of the items at their places. -/
theorem forall₂_of_mapM_eq_ok {f : α → Except ε β} {list : List α} {results : List β}
    (h : list.mapM f = .ok results) :
    List.Forall₂ (fun item result => f item = .ok result) list results := by
  have hsame : List.Forall₂ (· = ·) (list.map f) (results.map .ok) := by
    rw [List.forall₂_eq_eq_eq, mapM_eq_ok_iff.1 h]
  rwa [List.forall₂_map_left_iff, List.forall₂_map_right_iff] at hsame

/-- What results have of their items is had of the items in order. -/
theorem map_eq_of_mapM_eq_ok {γ : Type} {f : α → Except ε β} {g : α → γ} {g' : β → γ}
    (h : ∀ item result, f item = .ok result → g item = g' result) {list : List α}
    {results : List β} (hall : list.mapM f = .ok results) : list.map g = results.map g' := by
  rw [mapM_eq_ok_iff] at hall
  induction list generalizing results with
  | nil =>
    rw [List.map_nil, eq_comm, List.map_eq_nil_iff] at hall
    rw [hall, List.map_nil, List.map_nil]
  | cons item rest ih =>
    rw [List.map_cons, eq_comm, List.map_eq_cons_iff] at hall
    obtain ⟨result, others, rfl, hfirst, hothers⟩ := hall
    rw [List.map_cons, List.map_cons, h item result hfirst.symm, ih hothers.symm]

/-- Of all items results are had just if the items are what these results are had of. -/
theorem mapM_eq_some_iff {f : α → Option β} {g : β → α}
    (h : ∀ item result, f item = some result ↔ item = g result) {list : List α}
    {results : List β} : list.mapM f = some results ↔ list = results.map g := by
  induction list generalizing results with
  | nil => cases results <;> simp
  | cons item rest ih =>
    rw [List.mapM_cons, Option.bind_eq_bind, Option.bind_eq_some_iff, eq_comm (b := results.map _),
      List.map_eq_cons_iff]
    constructor
    · rintro ⟨first, hfirst, hothers⟩
      obtain ⟨others, hrest, hresults⟩ := Option.bind_eq_some_iff.1 hothers
      cases hresults
      exact ⟨first, others, rfl, ((h item first).1 hfirst).symm, (ih.1 hrest).symm⟩
    · rintro ⟨first, others, rfl, hfirst, hothers⟩
      refine ⟨first, (h item first).2 hfirst.symm, ?_⟩
      rw [ih.2 hothers.symm]
      rfl

/-- An entry that is not at fault is passed; the first one that is ends the reading of a list. -/
theorem mapM_append_cons_eq_error {f : α → Except ε β} {before after : List α}
    {item : α} {failure : ε}
    (hbefore : ∀ earlier ∈ before, (∃ result, f earlier = .ok result) ∨ f earlier = .error failure)
    (hitem : f item = .error failure) : (before ++ item :: after).mapM f = .error failure := by
  induction before with
  | nil => rw [List.nil_append, List.mapM_cons, hitem]; rfl
  | cons first rest ih =>
    obtain ⟨hfirst, hrest⟩ := List.forall_mem_cons.1 hbefore
    rw [List.cons_append, List.mapM_cons]
    rcases hfirst with ⟨result, hok⟩ | hfailed
    · rw [hok, ih hrest]
      rfl
    · rw [hfailed]
      rfl

/-- Results in order can be had if each of them can. -/
theorem exists_mapM_eq_ok {f : α → Except ε β} {list : List α}
    (h : ∀ item ∈ list, ∃ result, f item = .ok result) : ∃ results, list.mapM f = .ok results := by
  induction list with
  | nil => exact ⟨[], rfl⟩
  | cons first rest ih =>
    obtain ⟨⟨result, hfirst⟩, hrest⟩ := List.forall_mem_cons.1 h
    obtain ⟨results, hresults⟩ := ih hrest
    exact ⟨result :: results, by rw [List.mapM_cons, hfirst, hresults]; rfl⟩

/-- Of items of which some have a property there is a first one that has it. -/
theorem exists_first {list : List α} {P : α → Prop} (h : ∃ item ∈ list, P item) :
    ∃ before item after, list = before ++ item :: after ∧ (∀ earlier ∈ before, ¬ P earlier) ∧
      P item := by
  induction list with
  | nil =>
    obtain ⟨item, hitem, -⟩ := h
    cases hitem
  | cons first rest ih =>
    by_cases hfirst : P first
    · exact ⟨[], first, rest, rfl, fun _ hmem => absurd hmem List.not_mem_nil, hfirst⟩
    · have hrest : ∃ item ∈ rest, P item := by
        simpa [hfirst] using h
      obtain ⟨before, item, after, rfl, hbefore, hitem⟩ := ih hrest
      exact ⟨first :: before, item, after, rfl, List.forall_mem_cons.2 ⟨hfirst, hbefore⟩, hitem⟩

end BuildAudit
