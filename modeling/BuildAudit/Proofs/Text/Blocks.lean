import BuildAudit.Proofs.Text.CodeText

/-!
# Blocks

A listing is a sequence of blocks, each of which is a head and what comes after it up to the next
head. Where heads are known from what comes after them, the listing determines its blocks
(`IsBlock.eq_of_flatten_eq`). The lines of a text are blocks that start with a line feed, so a text
determines the indented lines that follow its first one (`eq_of_separatedBy_eq`).
-/

namespace BuildAudit.Text

variable {α : Type} {isHead : α → Bool}

/-- A head, and elements after it that are no heads. -/
inductive IsBlock (isHead : α → Bool) : List α → Prop where
  /-- The head comes first. -/
  | intro {head : α} {tail : List α} (hhead : isHead head = true)
    (htail : ∀ element ∈ tail, isHead element = false) : IsBlock isHead (head :: tail)

/-- A list that does not go on with the block before it: if anything comes, it is a head. -/
def EndsBlock (isHead : α → Bool) (rest : List α) : Prop :=
  ∀ first, rest.head? = some first → isHead first = true

theorem endsBlock_nil : EndsBlock isHead [] := fun _ h => by cases h

theorem IsBlock.endsBlock_append {block : List α} (h : IsBlock isHead block) (rest : List α) :
    EndsBlock isHead (block ++ rest) := by
  cases h with
  | intro hhead _ =>
    rintro first ⟨⟩
    exact hhead

/-- What comes before the next head is what is no head. -/
theorem takeWhile_append_of_endsBlock {tail rest : List α}
    (htail : ∀ element ∈ tail, isHead element = false) (hrest : EndsBlock isHead rest) :
    (tail ++ rest).takeWhile (!isHead ·) = tail := by
  have hnone : rest.takeWhile (!isHead ·) = [] := by
    cases rest with
    | nil => rfl
    | cons first others => simp [hrest first rfl]
  rw [List.takeWhile_append_of_pos (by simpa using htail), hnone, List.append_nil]

namespace IsBlock

variable {block other rest rest' : List α} {blocks others : List (List α)}

/-- The first block of a listing is determined. -/
theorem append_inj (h : IsBlock isHead block) (h' : IsBlock isHead other)
    (hrest : EndsBlock isHead rest) (hrest' : EndsBlock isHead rest')
    (heq : block ++ rest = other ++ rest') : block = other ∧ rest = rest' := by
  cases h with
  | intro _ htail =>
    cases h' with
    | intro _ htail' =>
      rw [List.cons_append, List.cons_append, List.cons.injEq] at heq
      obtain ⟨hhead, hmore⟩ := heq
      have htails := congrArg (List.takeWhile (!isHead ·)) hmore
      rw [takeWhile_append_of_endsBlock htail hrest, takeWhile_append_of_endsBlock htail' hrest']
        at htails
      rw [htails] at hmore
      rw [hhead, htails]
      exact ⟨rfl, List.append_cancel_left hmore⟩

/-- What follows blocks ends them, and so do further blocks before it. -/
theorem endsBlock_flatten_append (h : ∀ block ∈ blocks, IsBlock isHead block)
    (hrest : EndsBlock isHead rest) : EndsBlock isHead (blocks.flatten ++ rest) := by
  cases blocks with
  | nil => exact hrest
  | cons block more =>
    rw [List.flatten_cons, List.append_assoc]
    exact (h block (.head _)).endsBlock_append _

/-- A listing determines its blocks if what follows them does not start with a block of the other
listing. -/
theorem eq_of_flatten_append_eq (h : ∀ block ∈ blocks, IsBlock isHead block)
    (h' : ∀ block ∈ others, IsBlock isHead block) (hrest : EndsBlock isHead rest)
    (hrest' : EndsBlock isHead rest') (hstop : ∀ block ∈ others, ¬ block <+: rest)
    (hstop' : ∀ block ∈ blocks, ¬ block <+: rest')
    (heq : blocks.flatten ++ rest = others.flatten ++ rest') : blocks = others := by
  -- Neither listing ends where the other goes on with a block, so both have a first block or none.
  induction blocks generalizing others with
  | nil =>
    cases others with
    | nil => rfl
    | cons block more =>
      rw [List.flatten_nil, List.nil_append, List.flatten_cons, List.append_assoc] at heq
      exact absurd ⟨_, heq.symm⟩ (hstop block (.head _))
  | cons block more ih =>
    cases others with
    | nil =>
      rw [List.flatten_nil, List.nil_append, List.flatten_cons, List.append_assoc] at heq
      exact absurd ⟨_, heq⟩ (hstop' block (.head _))
    | cons other others =>
      obtain ⟨hblock, hmore⟩ := List.forall_mem_cons.1 h
      obtain ⟨hother, hothers⟩ := List.forall_mem_cons.1 h'
      rw [List.flatten_cons, List.append_assoc, List.flatten_cons, List.append_assoc] at heq
      obtain ⟨hfirst, htails⟩ := append_inj hblock hother (endsBlock_flatten_append hmore hrest)
        (endsBlock_flatten_append hothers hrest') heq
      rw [hfirst, ih hmore hothers (List.forall_mem_cons.1 hstop).2
        (List.forall_mem_cons.1 hstop').2 htails]

/-- A listing determines its blocks. -/
theorem eq_of_flatten_eq (h : ∀ block ∈ blocks, IsBlock isHead block)
    (h' : ∀ block ∈ others, IsBlock isHead block) (heq : blocks.flatten = others.flatten) :
    blocks = others := by
  have hstop {listed : List (List α)} (hlisted : ∀ block ∈ listed, IsBlock isHead block) :
      ∀ block ∈ listed, ¬ block <+: [] := by
    intro block hblock hprefix
    rw [List.prefix_nil] at hprefix
    subst hprefix
    cases hlisted [] hblock
  refine eq_of_flatten_append_eq h h' endsBlock_nil endsBlock_nil (hstop h') (hstop h) ?_
  rw [List.append_nil, List.append_nil, heq]

end IsBlock

/-! ### Lines -/

/-- A line of a text after the first one, with the line feed before it. -/
def lineBlock (line : CodeText) : List CodePoint :=
  .char '\n' :: line.points

/-- A line that starts with a space and holds no line feed. -/
def IsIndented (line : CodeText) : Prop :=
  ∃ rest, line.points = .char ' ' :: rest ∧ .char '\n' ∉ rest

theorem IsIndented.isBlock {line : CodeText} (h : IsIndented line) :
    IsBlock (· == .char '\n') (lineBlock line) := by
  obtain ⟨rest, hline, hrest⟩ := h
  refine .intro (beq_self_eq_true _) fun point hpoint => ?_
  rw [hline] at hpoint
  rw [beq_eq_false_iff_ne]
  rintro rfl
  rcases List.mem_cons.1 hpoint with heq | hmem
  · cases heq
  · exact hrest hmem

/-- The lines of a text after the first one are blocks. -/
theorem points_separatedBy_cons (first : CodeText) (lines : List CodeText) :
    (CodeText.separatedBy '\n' (first :: lines)).points =
      first.points ++ (lines.map lineBlock).flatten := by
  induction lines generalizing first with
  | nil => simp [CodeText.separatedBy]
  | cons line rest ih =>
    rw [CodeText.separatedBy, CodeText.points_joinWith, ih line]
    · simp [lineBlock]
    · simp

theorem lineBlock_injective : Function.Injective lineBlock := fun _ _ h =>
  CodeText.eq_of_points_eq (List.cons.inj h).2

/-- Lines come to an end before others. -/
theorem endsBlock_lines (lines : List CodeText) :
    EndsBlock (· == .char '\n') (lines.map lineBlock).flatten := by
  cases lines with
  | nil => exact endsBlock_nil
  | cons line rest =>
    rintro first ⟨⟩
    exact beq_self_eq_true _

/-- Lines that do not go on with indented ones: the first of them, if there is one, starts with
something else than a space. -/
def IsFooter (lines : List CodeText) : Prop :=
  ∀ line, lines.head? = some line → ∃ point rest, line.points = point :: rest ∧ point ≠ .char ' '

theorem isFooter_nil : IsFooter [] := fun _ h => by cases h

/-- An indented line is not what comes first in a footer. -/
theorem IsFooter.not_prefix {footer : List CodeText} (h : IsFooter footer) {line : CodeText}
    (hline : IsIndented line) : ¬ lineBlock line <+: (footer.map lineBlock).flatten := by
  obtain ⟨rest, hrest, -⟩ := hline
  cases footer with
  | nil => simp [lineBlock]
  | cons first others =>
    obtain ⟨point, after, hfirst, hne⟩ := h first rfl
    simp [lineBlock, hrest, hfirst, Ne.symm hne]

/-- Texts with the same first line have the same indented lines between that and a footer. -/
theorem eq_of_separatedBy_eq {first : CodeText} {body body' footer footer' : List CodeText}
    (hbody : ∀ line ∈ body, IsIndented line) (hbody' : ∀ line ∈ body', IsIndented line)
    (hfooter : IsFooter footer) (hfooter' : IsFooter footer')
    (h : CodeText.separatedBy '\n' (first :: (body ++ footer)) =
      CodeText.separatedBy '\n' (first :: (body' ++ footer'))) : body = body' := by
  have hblocks {lines : List CodeText} (hlines : ∀ line ∈ lines, IsIndented line) :
      ∀ block ∈ lines.map lineBlock, IsBlock (· == .char '\n') block :=
    List.forall_mem_map.2 fun line hline => (hlines line hline).isBlock
  have hpoints := congrArg CodeText.points h
  rw [points_separatedBy_cons, points_separatedBy_cons, List.map_append, List.map_append,
    List.flatten_append, List.flatten_append] at hpoints
  refine lineBlock_injective.list_map (IsBlock.eq_of_flatten_append_eq (hblocks hbody)
    (hblocks hbody') (endsBlock_lines footer) (endsBlock_lines footer') ?_ ?_
    (List.append_cancel_left hpoints))
  · exact List.forall_mem_map.2 fun line hline => hfooter.not_prefix (hbody' line hline)
  · exact List.forall_mem_map.2 fun line hline => hfooter'.not_prefix (hbody line hline)

end BuildAudit.Text
