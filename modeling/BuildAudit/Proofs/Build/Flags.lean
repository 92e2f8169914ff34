import BuildAudit.Build.Flags

/-!
# Reserved arguments

`Sets` and `IsReserved` say without a computation which arguments are reserved, and `Conflict` which
fault a reserved argument leads to. `Vetting` says what comes of a list of values: it passes, it is
refused for its first reserved text, or it has a value before that which is no text. The check does
what `Vetting` says (`vetting_iff`).
-/

namespace BuildAudit

/-- An argument sets one of some flags if it is the flag, alone or with a value after an equals
sign. -/
def Sets (flags : List String) (argument : String) : Prop :=
  ∃ flag ∈ flags, argument = flag ∨ ∃ value, argument = flag ++ "=" ++ value

/-- An argument is reserved if it sets the output directory, or if there is a backend and it sets
the kind of code that is generated. -/
def IsReserved (backend? : Option Backend) (argument : String) : Prop :=
  Sets ["--output", "-o"] argument ∨ (backend?.isSome ∧ Sets ["--codegen", "-g"] argument)

/-- The fault that a reserved argument leads to. -/
inductive Conflict (backend? : Option Backend) (argument : String) : BuildFault → Prop
  | output :
      Sets ["--output", "-o"] argument →
      Conflict backend? argument (.reservedFlag argument
        "the output path is set by the `output` setting in the build configuration")
  | codegen (backend : Backend) :
      backend? = some backend →
      ¬ Sets ["--output", "-o"] argument →
      Sets ["--codegen", "-g"] argument →
      Conflict backend? argument (.reservedFlag argument
        s!"the codegen target is implied by the configured backend `{backend.command}`")

/-- A text goes on after another one if its characters do. -/
theorem toList_isPrefixOf_iff (start text : String) :
    start.toList.isPrefixOf text.toList = true ↔ ∃ value, text = start ++ value := by
  rw [List.isPrefixOf_iff_prefix]
  constructor
  · rintro ⟨rest, hrest⟩
    refine ⟨String.ofList rest, ?_⟩
    rw [← String.toList_inj, String.toList_append, String.toList_ofList, hrest]
  · rintro ⟨value, rfl⟩
    exact ⟨value.toList, by rw [String.toList_append]⟩

/-- The check for flags finds the arguments that set one of them. -/
theorem isFlag_eq_true_iff (flags : List String) (argument : String) :
    isFlag flags argument = true ↔ Sets flags argument := by
  simp only [isFlag, List.any_eq_true, Bool.or_eq_true, beq_iff_eq, toList_isPrefixOf_iff, Sets]

/-- The fault that is found for an argument is the one that it leads to. -/
theorem reservedFlag?_eq_some_iff (backend? : Option Backend) (argument : String)
    (fault : BuildFault) :
    reservedFlag? backend? argument = some fault ↔ Conflict backend? argument fault := by
  have houtput := isFlag_eq_true_iff outputFlags argument
  have hcodegen := isFlag_eq_true_iff codegenFlags argument
  rw [outputFlags] at houtput
  rw [codegenFlags] at hcodegen
  unfold reservedFlag? outputFlags codegenFlags
  split
  next h =>
    constructor
    · rintro ⟨⟩
      exact .output (houtput.1 h)
    · rintro (hsets | ⟨_, _, hsets, _⟩)
      · rfl
      · exact absurd (houtput.1 h) hsets
  next h =>
    -- The output was looked at first: what remains can only be about generated code, which matters
    -- with a backend alone.
    have hnot : ¬ Sets ["--output", "-o"] argument := fun hsets => h (houtput.2 hsets)
    split
    · constructor
      · rintro ⟨⟩
      · rintro (hsets | ⟨_, hbackend, _, _⟩)
        · exact absurd hsets hnot
        · cases hbackend
    · next backend =>
      split
      next hgen =>
        constructor
        · rintro ⟨⟩
          exact .codegen backend rfl hnot (hcodegen.1 hgen)
        · rintro (hsets | ⟨_, hbackend, _, _⟩)
          · exact absurd hsets hnot
          · cases hbackend
            rfl
      next hgen =>
        constructor
        · rintro ⟨⟩
        · rintro (hsets | ⟨_, _, _, hsets⟩)
          · exact absurd hsets hnot
          · exact absurd (hcodegen.2 hsets) hgen

/-- An argument is reserved just if it leads to a fault. -/
theorem isReserved_iff_exists_conflict (backend? : Option Backend) (argument : String) :
    IsReserved backend? argument ↔ ∃ fault, Conflict backend? argument fault := by
  constructor
  · intro h
    by_cases houtput : Sets ["--output", "-o"] argument
    · exact ⟨_, .output houtput⟩
    · obtain ⟨hbackend, hcodegen⟩ := h.resolve_left houtput
      obtain ⟨backend, hbackend⟩ := Option.isSome_iff_exists.1 hbackend
      exact ⟨_, .codegen backend hbackend houtput hcodegen⟩
  · rintro ⟨_, houtput | ⟨backend, hbackend, _, hcodegen⟩⟩
    · exact Or.inl houtput
    · exact Or.inr ⟨by rw [hbackend]; rfl, hcodegen⟩

/-- Nothing is found for an argument just if it is not reserved. -/
theorem reservedFlag?_eq_none_iff (backend? : Option Backend) (argument : String) :
    reservedFlag? backend? argument = none ↔ ¬ IsReserved backend? argument := by
  rw [isReserved_iff_exists_conflict, Option.eq_none_iff_forall_ne_some]
  simp only [ne_eq, reservedFlag?_eq_some_iff, not_exists]

/-- A text in front that is not reserved is passed over. -/
theorem checkArguments_string_cons {backend? : Option Backend} {argument : String}
    (h : ¬ IsReserved backend? argument) (rest : List Value) :
    checkArguments backend? (.string argument :: rest) =
      (checkArguments backend? rest).map (argument :: ·) := by
  rw [checkArguments, (reservedFlag?_eq_none_iff backend? argument).2 h]

/-- A reserved text in front ends the check with its fault. -/
theorem checkArguments_reserved_cons {backend? : Option Backend} {flag : String}
    {fault : BuildFault} (h : Conflict backend? flag fault) (rest : List Value) :
    checkArguments backend? (.string flag :: rest) = .error (.fault (.build fault)) := by
  rw [checkArguments, (reservedFlag?_eq_some_iff backend? flag fault).2 h]

/-- What comes of a check of values. -/
inductive Vetting (backend? : Option Backend) :
    List Value → Except Failure (List String) → Prop
  /-- Texts pass if none of them is reserved. -/
  | passed {arguments : List String} :
      (∀ argument ∈ arguments, ¬ IsReserved backend? argument) →
      Vetting backend? (arguments.map .string) (.ok arguments)
  /-- The first reserved text leads to its fault. -/
  | refused {before : List String} {flag : String} {fault : BuildFault} {after : List Value} :
      (∀ argument ∈ before, ¬ IsReserved backend? argument) →
      Conflict backend? flag fault →
      Vetting backend? (before.map .string ++ .string flag :: after)
        (.error (.fault (.build fault)))
  /-- A value that is no text cannot be checked. -/
  | notText {before : List String} {value : Value} {after : List Value} :
      (∀ argument ∈ before, ¬ IsReserved backend? argument) →
      value.asString? = none →
      Vetting backend? (before.map .string ++ value :: after) (.error .argumentKind)

/-- A text in front that is not reserved is passed over. -/
theorem Vetting.cons {backend? : Option Backend} {argument : String} {rest : List Value}
    {outcome : Except Failure (List String)} (hargument : ¬ IsReserved backend? argument)
    (h : Vetting backend? rest outcome) :
    Vetting backend? (.string argument :: rest) (outcome.map (argument :: ·)) := by
  have hcons {before : List String} (hbefore : ∀ other ∈ before, ¬ IsReserved backend? other) :
      ∀ other ∈ argument :: before, ¬ IsReserved backend? other :=
    List.forall_mem_cons.2 ⟨hargument, hbefore⟩
  cases h with
  | passed hfree => exact .passed (hcons hfree)
  | refused hbefore hconflict => exact .refused (hcons hbefore) hconflict
  | notText hbefore hvalue => exact .notText (hcons hbefore) hvalue

/-- Values that do not pass have a reserved text or a value that is no text. -/
theorem Vetting.failure_cases {backend? : Option Backend} {values : List Value} {failure : Failure}
    (h : Vetting backend? values (.error failure)) :
    (∃ fault, failure = .fault (.build fault)) ∨ failure = .argumentKind := by
  cases h with
  | refused => exact Or.inl ⟨_, rfl⟩
  | notText => exact Or.inr rfl

/-- Values that pass are texts. -/
theorem Vetting.eq_texts {backend? : Option Backend} {values : List Value}
    {arguments : List String} (h : Vetting backend? values (.ok arguments)) :
    values = arguments.map .string := by
  cases h
  rfl

/-- Texts in front that are not reserved are passed over. -/
theorem checkArguments_append {backend? : Option Backend} {before : List String}
    (hbefore : ∀ argument ∈ before, ¬ IsReserved backend? argument) (after : List Value) :
    checkArguments backend? (before.map .string ++ after) =
      (checkArguments backend? after).map (before ++ ·) := by
  induction before with
  | nil =>
    rw [List.map_nil, List.nil_append]
    cases checkArguments backend? after <;> rfl
  | cons argument rest ih =>
    obtain ⟨hargument, hrest⟩ := List.forall_mem_cons.1 hbefore
    rw [List.map_cons, List.cons_append, checkArguments_string_cons hargument, ih hrest]
    cases checkArguments backend? after <;> rfl

/-- The check accepts texts none of which is reserved, and otherwise ends at the first value that is
reserved or no text. -/
theorem vetting_iff {backend? : Option Backend} {values : List Value}
    {outcome : Except Failure (List String)} :
    Vetting backend? values outcome ↔ checkArguments backend? values = outcome := by
  have hnone : ∀ argument ∈ ([] : List String), ¬ IsReserved backend? argument :=
    fun _ h => absurd h List.not_mem_nil
  constructor
  · intro h
    cases h with
    | @passed arguments hfree =>
      rw [← List.append_nil (arguments.map Value.string), checkArguments_append hfree]
      exact congrArg Except.ok (List.append_nil arguments)
    | refused hbefore hconflict =>
      rw [checkArguments_append hbefore, checkArguments_reserved_cons hconflict]
      rfl
    | @notText before value after hbefore hvalue =>
      have hrest : checkArguments backend? (value :: after) = .error .argumentKind := by
        cases value with
        | string text => cases hvalue
        | _ => rfl
      rw [checkArguments_append hbefore, hrest]
      rfl
  -- The induction follows the check, which looks at the first value and leaves the others.
  · rintro rfl
    induction values with
    | nil => exact .passed hnone
    | cons value rest ih =>
      cases value with
      | string argument =>
        by_cases hreserved : IsReserved backend? argument
        · obtain ⟨fault, hfault⟩ := (isReserved_iff_exists_conflict backend? argument).1 hreserved
          rw [checkArguments_reserved_cons hfault]
          exact .refused hnone hfault
        · rw [checkArguments_string_cons hreserved]
          exact .cons hreserved ih
      | _ => exact .notText hnone rfl

/-- The check has one outcome. -/
theorem Vetting.unique {backend? : Option Backend} {values : List Value}
    {outcome other : Except Failure (List String)} (h : Vetting backend? values outcome)
    (hother : Vetting backend? values other) : outcome = other :=
  (vetting_iff.1 h).symm.trans (vetting_iff.1 hother)

end BuildAudit
