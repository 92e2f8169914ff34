import BuildAudit.Text.Blank
import BuildAudit.Text.Lowercase

/-!
# Texts in lower case

Lower-casing settles a text: no image of a mapping run is listed by a run again, so lower-casing the
result changes nothing (`lower_lower`). No image is blank unless the character was, so a trimmed
text stays trimmed (`trim_lower_trim`).
-/

namespace BuildAudit.Text

/-- The last image of a run. -/
def MappingRun.lastImage (run : MappingRun) : Nat :=
  run.image + (run.last - run.first)

/-- Whether the images of a run keep clear of the codes of another: they lie before or behind them,
or the two differ in parity. -/
def MappingRun.avoids (run other : MappingRun) : Bool :=
  run.lastImage < other.first || other.last < run.image ||
    ((run.step == 2 || run.first == run.last) && other.step == 2 &&
      run.image % 2 != other.first % 2)

/-- Whether all images of a run are code points of characters. -/
def MappingRun.isValid (run : MappingRun) : Bool :=
  run.lastImage < 0xD800 || (0xE000 ≤ run.image && run.lastImage < 0x110000)

/-- The codes of the two characters whose lower case does not come from a run: the dotted capital I
and the capital sigma. -/
def irregularRuns : List MappingRun :=
  [{ first := 304, last := 304, step := 2, image := 0 },
    { first := 931, last := 931, step := 2, image := 0 }]

/-- The images of all runs keep clear of all codes that are mapped. -/
theorem lowercaseRuns_avoid :
    ∀ run ∈ lowercaseRuns, ∀ other ∈ irregularRuns ++ lowercaseRuns, run.avoids other = true := by
  have h : (lowercaseRuns.all fun run =>
      (irregularRuns ++ lowercaseRuns).all run.avoids) = true := by decide +kernel
  simpa only [List.all_eq_true] using h

/-- All images are code points of characters, and none of them is blank. -/
theorem lowercaseRuns_valid :
    ∀ run ∈ lowercaseRuns, run.isValid = true ∧
      ∀ range ∈ blankCodePoints.ranges, run.lastImage < range.1 ∨ range.2 < run.image := by
  decide +kernel

/-- The image of a code is listed by no run that the images keep clear of. -/
theorem MappingRun.mapped?_eq_none_of_avoids {run other : MappingRun} {code image : Nat}
    (havoids : run.avoids other = true) (hmapped : run.mapped? code = some image) :
    other.mapped? image = none := by
  simp only [mapped?, Option.ite_none_right_eq_some, Option.some.injEq, Bool.and_eq_true,
    decide_eq_true_eq, beq_iff_eq] at hmapped
  obtain ⟨⟨⟨hfirst, hlast⟩, hstep⟩, himage⟩ := hmapped
  simp only [avoids, Bool.or_eq_true, Bool.and_eq_true, decide_eq_true_eq, beq_iff_eq,
    bne_iff_ne] at havoids
  simp only [mapped?, ite_eq_right_iff, Bool.and_eq_true, decide_eq_true_eq, beq_iff_eq,
    reduceCtorEq, imp_false]
  rintro ⟨⟨hafter, hbefore⟩, hparity⟩
  rcases havoids with (hfront | hbehind) | ⟨⟨hsteps, hother⟩, hne⟩
  · rw [lastImage] at hfront
    omega
  · omega
  · rw [hother] at hparity
    rcases hsteps with htwo | hone
    · rw [htwo] at hstep
      omega
    · omega

/-- An image lies between the first and the last image of its run. -/
theorem MappingRun.image_bounds {run : MappingRun} {code image : Nat}
    (hmapped : run.mapped? code = some image) : run.image ≤ image ∧ image ≤ run.lastImage := by
  simp only [mapped?, Option.ite_none_right_eq_some, Option.some.injEq, Bool.and_eq_true,
    decide_eq_true_eq] at hmapped
  rw [lastImage]
  omega

/-- The run that gives a code its image. -/
theorem exists_run_of_findSome? {code image : Nat}
    (hmapped : lowercaseRuns.findSome? (·.mapped? code) = some image) :
    ∃ run ∈ lowercaseRuns, run.mapped? code = some image :=
  List.exists_of_findSome?_eq_some hmapped

/-- The image of a code is the code point of a character. -/
theorem toNat_ofNat_image {code image : Nat}
    (hmapped : lowercaseRuns.findSome? (·.mapped? code) = some image) :
    (Char.ofNat image).toNat = image := by
  obtain ⟨run, hrun, himage⟩ := exists_run_of_findSome? hmapped
  obtain ⟨hlow, hhigh⟩ := MappingRun.image_bounds himage
  have hvalid := (lowercaseRuns_valid run hrun).1
  simp only [MappingRun.isValid, Bool.or_eq_true, Bool.and_eq_true, decide_eq_true_eq] at hvalid
  have hchar : image.isValidChar := by
    rcases hvalid with h | h
    · exact Or.inl (by omega)
    · exact Or.inr (by omega)
  rw [Char.ofNat, dif_pos hchar]
  rfl

/-- Whether lower-casing leaves a character as it is, wherever it stands. -/
def IsSettled (c : Char) : Prop :=
  c ≠ capitalSigma ∧ lowerChar c = [c]

instance (c : Char) : Decidable (IsSettled c) :=
  inferInstanceAs (Decidable (c ≠ capitalSigma ∧ lowerChar c = [c]))

/-- The ASCII characters are settled but for the capital letters. -/
theorem isSettled_ascii : ∀ code < 128, (code < 65 ∨ 90 < code) → IsSettled (Char.ofNat code) := by
  decide +kernel

/-- Lower-casing an ASCII character settles it and makes no blank of it. -/
theorem isSettled_toLower_ascii :
    ∀ code < 128, IsSettled (Char.ofNat code).toLower ∧
      (isBlank (Char.ofNat code).toLower = true → isBlank (Char.ofNat code) = true) := by
  decide +kernel

/-- The image of a code is settled. -/
theorem isSettled_ofNat_image {code image : Nat}
    (hmapped : lowercaseRuns.findSome? (·.mapped? code) = some image) :
    IsSettled (Char.ofNat image) := by
  have hcode := toNat_ofNat_image hmapped
  obtain ⟨run, hrun, himage⟩ := exists_run_of_findSome? hmapped
  have hclear : ∀ other ∈ irregularRuns ++ lowercaseRuns, other.mapped? image = none :=
    fun other hother =>
      MappingRun.mapped?_eq_none_of_avoids (lowercaseRuns_avoid run hrun other hother) himage
  have hdotted : Char.ofNat image ≠ 'İ' := by
    intro h
    have hfree := hclear ⟨304, 304, 2, 0⟩ (.head _)
    rw [← hcode, h] at hfree
    exact absurd hfree (by decide)
  have hsigma : Char.ofNat image ≠ capitalSigma := by
    intro h
    have hfree := hclear ⟨931, 931, 2, 0⟩ (.tail _ (.head _))
    rw [← hcode, h] at hfree
    exact absurd hfree (by decide)
  by_cases hascii : image < 128
  · have hcapital := hclear ⟨65, 90, 1, 97⟩ (List.mem_append_right _ (.head _))
    simp only [MappingRun.mapped?, Nat.mod_one, BEq.rfl, Bool.and_true, ite_eq_right_iff,
      Bool.and_eq_true, decide_eq_true_eq, reduceCtorEq, imp_false] at hcapital
    exact isSettled_ascii image hascii (by omega)
  · refine ⟨hsigma, ?_⟩
    have hnone : lowercaseRuns.findSome? (·.mapped? image) = none :=
      List.findSome?_eq_none_iff.2 fun other hother =>
        hclear other (List.mem_append_right _ hother)
    rw [lowerChar, hcode, if_neg hascii, if_neg hdotted, hnone]

/-- The image of a code is not blank. -/
theorem isBlank_ofNat_image {code image : Nat}
    (hmapped : lowercaseRuns.findSome? (·.mapped? code) = some image) :
    isBlank (Char.ofNat image) = false := by
  obtain ⟨run, hrun, himage⟩ := exists_run_of_findSome? hmapped
  obtain ⟨hlow, hhigh⟩ := MappingRun.image_bounds himage
  rw [isBlank, CodePoints.contains, List.any_eq_false, toNat_ofNat_image hmapped]
  intro range hrange
  have hclear := (lowercaseRuns_valid run hrun).2 range hrange
  simp only [Bool.and_eq_true, decide_eq_true_eq]
  omega

/-- The characters that a character is replaced by are settled, and none of them is blank unless the
character is. -/
theorem isSettled_of_mem_lowerChar {c image : Char} (himage : image ∈ lowerChar c) :
    IsSettled image ∧ (isBlank image = true → isBlank c = true) := by
  unfold lowerChar at himage
  split at himage
  next hascii =>
    rw [List.mem_singleton] at himage
    have h := isSettled_toLower_ascii c.toNat hascii
    rw [Char.ofNat_toNat] at h
    rwa [himage]
  next hascii =>
    split at himage
    next hdotted =>
      rw [List.mem_cons, List.mem_singleton] at himage
      rcases himage with rfl | rfl
      · exact ⟨by decide, fun h => absurd h (by decide)⟩
      · exact ⟨by decide, fun h => absurd h (by decide)⟩
    next hdotted =>
      split at himage
      next code hmapped =>
        rw [List.mem_singleton] at himage
        rw [himage, isBlank_ofNat_image hmapped]
        exact ⟨isSettled_ofNat_image hmapped, fun h => by cases h⟩
      next hnone =>
        rw [List.mem_singleton] at himage
        subst himage
        refine ⟨⟨?_, ?_⟩, id⟩
        · rintro rfl
          exact absurd hnone (by decide)
        · rw [lowerChar, if_neg hascii, if_neg hdotted, hnone]

/-- What a character may be replaced by in a text. -/
def IsImage (c : Char) (image : List Char) : Prop :=
  image = lowerChar c ∨ image = ['ς'] ∨ image = ['σ']

/-- An image is not empty, all its characters are settled, and none of them is blank unless the
character is. -/
theorem IsImage.settled {c : Char} {image : List Char} (himage : IsImage c image)
    (hblank : isBlank c = false) :
    image ≠ [] ∧ ∀ x ∈ image, IsSettled x ∧ isBlank x = false := by
  rcases himage with rfl | rfl | rfl
  · refine ⟨?_, fun x hx => ?_⟩
    · unfold lowerChar
      split
      · exact List.cons_ne_nil _ _
      · split
        · exact List.cons_ne_nil _ _
        · split <;> exact List.cons_ne_nil _ _
    · obtain ⟨hsettled, himp⟩ := isSettled_of_mem_lowerChar hx
      refine ⟨hsettled, ?_⟩
      cases h : isBlank x with
      | false => rfl
      | true => rw [himp h] at hblank; cases hblank
  · exact ⟨List.cons_ne_nil _ _, List.forall_mem_singleton.2 ⟨by decide, by decide⟩⟩
  · exact ⟨List.cons_ne_nil _ _, List.forall_mem_singleton.2 ⟨by decide, by decide⟩⟩

/-- The first character of a text is replaced by an image of it. -/
theorem lowerAfter_cons (afterCased : Bool) (c : Char) (rest : List Char) :
    ∃ image nowCased, IsImage c image ∧
      lowerAfter afterCased (c :: rest) = image ++ lowerAfter nowCased rest := by
  refine ⟨_, _, ?_, rfl⟩
  split
  · split
    · exact Or.inr (Or.inl rfl)
    · exact Or.inr (Or.inr rfl)
  · exact Or.inl rfl

/-- The last character of a text is replaced by an image of it. -/
theorem lowerAfter_concat (afterCased : Bool) (cs : List Char) (c : Char) :
    ∃ before image, IsImage c image ∧ lowerAfter afterCased (cs ++ [c]) = before ++ image := by
  induction cs generalizing afterCased with
  | nil =>
    obtain ⟨image, nowCased, himage, heq⟩ := lowerAfter_cons afterCased c []
    exact ⟨[], image, himage, by simpa [lowerAfter] using heq⟩
  | cons first rest ih =>
    obtain ⟨image, nowCased, -, heq⟩ := lowerAfter_cons afterCased first (rest ++ [c])
    obtain ⟨before, last, hlast, hrest⟩ := ih nowCased
    exact ⟨image ++ before, last, hlast, by rw [List.cons_append, heq, hrest, List.append_assoc]⟩

/-- All characters of a text in lower case are settled. -/
theorem isSettled_of_mem_lowerAfter {afterCased : Bool} {cs : List Char} {x : Char}
    (hx : x ∈ lowerAfter afterCased cs) : IsSettled x := by
  induction cs generalizing afterCased with
  | nil => cases hx
  | cons c rest ih =>
    obtain ⟨image, nowCased, himage, heq⟩ := lowerAfter_cons afterCased c rest
    rw [heq, List.mem_append] at hx
    rcases hx with hx | hx
    · rcases himage with rfl | rfl | rfl
      · exact (isSettled_of_mem_lowerChar hx).1
      · rw [List.mem_singleton.1 hx]
        decide
      · rw [List.mem_singleton.1 hx]
        decide
    · exact ih hx

/-- A text of settled characters is in lower case already. -/
theorem lowerAfter_of_settled {cs : List Char} (hsettled : ∀ c ∈ cs, IsSettled c)
    (afterCased : Bool) : lowerAfter afterCased cs = cs := by
  induction cs generalizing afterCased with
  | nil => rfl
  | cons c rest ih =>
    obtain ⟨hsigma, hc⟩ := hsettled c (.head _)
    simp only [lowerAfter, if_neg hsigma, hc, List.singleton_append]
    rw [ih fun x hx => hsettled x (.tail _ hx)]

/-- Lower-casing a text in lower case changes nothing. -/
theorem lower_lower (cs : List Char) : lower (lower cs) = lower cs :=
  lowerAfter_of_settled (fun _ hx => isSettled_of_mem_lowerAfter hx) false

/-- Trimming keeps a text whose first and last characters are not blank. -/
theorem trim_eq_self {cs : List Char} (hfirst : ∀ c ∈ cs.head?, isBlank c = false)
    (hlast : ∀ c ∈ cs.getLast?, isBlank c = false) : trim cs = cs := by
  have hstart : trimStart cs = cs := by
    cases cs with
    | nil => rfl
    | cons c rest => rw [trimStart, List.dropWhile_cons_of_neg (by simpa using hfirst c rfl)]
  rw [trim, hstart, trimEnd]
  have hend : cs.reverse.dropWhile isBlank = cs.reverse := by
    rw [← List.head?_reverse] at hlast
    cases h : cs.reverse with
    | nil => rfl
    | cons c rest =>
      rw [h] at hlast
      rw [List.dropWhile_cons_of_neg (by simpa using hlast c rfl)]
  rw [hend, List.reverse_reverse]

/-- What is left when blanks are dropped in front does not start with a blank. -/
theorem isBlank_of_head?_dropWhile (cs : List Char) :
    ∀ c ∈ (cs.dropWhile isBlank).head?, isBlank c = false := by
  intro c hc
  have h := List.head?_dropWhile_not isBlank cs
  rw [Option.mem_def.1 hc] at h
  exact h

/-- The last character of a trimmed text is not blank. -/
theorem isBlank_of_getLast?_trim (cs : List Char) :
    ∀ c ∈ (trim cs).getLast?, isBlank c = false := by
  rw [trim, trimEnd, List.getLast?_reverse]
  exact isBlank_of_head?_dropWhile (trimStart cs).reverse

/-- The first character of a trimmed text is not blank. -/
theorem isBlank_of_head?_trim (cs : List Char) : ∀ c ∈ (trim cs).head?, isBlank c = false := by
  intro c hc
  have hprefix : trim cs <+: trimStart cs := by
    rw [trim, trimEnd, ← List.reverse_suffix, List.reverse_reverse]
    exact List.dropWhile_suffix _
  obtain ⟨blanks, hblanks⟩ := hprefix
  refine isBlank_of_head?_dropWhile cs c ?_
  rw [← trimStart, ← hblanks]
  cases h : trim cs with
  | nil => rw [h] at hc; cases hc
  | cons first rest => rw [h] at hc; exact hc

/-- A trimmed text is still trimmed when it is in lower case. -/
theorem trim_lower_trim (cs : List Char) : trim (lower (trim cs)) = lower (trim cs) := by
  have hfirst := isBlank_of_head?_trim cs
  have hlast := isBlank_of_getLast?_trim cs
  generalize trim cs = text at hfirst hlast
  refine trim_eq_self ?_ ?_
  · cases text with
    | nil => exact hfirst
    | cons c rest =>
      obtain ⟨image, nowCased, himage, heq⟩ := lowerAfter_cons false c rest
      obtain ⟨hne, hblank⟩ := himage.settled (hfirst c rfl)
      intro x hx
      rw [lower, heq, List.head?_append, List.head?_eq_some_head hne, Option.some_or] at hx
      cases hx
      exact (hblank _ (List.head_mem hne)).2
  · rcases List.eq_nil_or_concat text with rfl | ⟨before, c, rfl⟩
    · exact hlast
    · rw [List.concat_eq_append] at hlast ⊢
      obtain ⟨start, image, himage, heq⟩ := lowerAfter_concat false before c
      obtain ⟨hne, hblank⟩ := himage.settled (hlast c List.getLast?_concat)
      intro x hx
      rw [lower, heq, List.getLast?_append, List.getLast?_eq_some_getLast hne,
        Option.some_or] at hx
      cases hx
      exact (hblank _ (List.getLast_mem hne)).2

end BuildAudit.Text
