import BuildAudit.Proofs.Audit.Source

/-!
# Pools of tasks

A step of a pool changes one task (`Pool.Step.replaces`). It keeps the outcomes of all tasks, no
event is lost or made up, and a task is dropped only once a failure has been collected
(`Pool.Keeps`). So what is collected is what the tasks come to in turn, whatever the schedule.

No schedule gets stuck before the end of the pool (`Pool.exists_step`) and none goes on forever, for
every step leaves less work (`Pool.Step.work_lt`). Doing the tasks one after the other is one of the
schedules (`Pool.reaches_done`).
-/

namespace BuildAudit

variable {α : Type}

namespace Progress

/-- The outcome of a task, however far it is. -/
def outcome : Progress α → Except Failure α
  | .waiting task | .dropped task => task.outcome
  | .running _ outcome | .done outcome => outcome

/-- What has not happened during a task. -/
def left : Progress α → List Event
  | .waiting task | .dropped task => task.events
  | .running left _ => left
  | .done _ => []

/-- The number of steps that a task may still take. -/
def work : Progress α → Nat
  | .waiting task => task.events.length + 2
  | .running left _ => left.length + 1
  | .done _ | .dropped _ => 0

end Progress

namespace Pool

/-- What is collected is the results of the tasks in order, or their first failure. -/
theorem mapM_outcome_of_collect {list : List (Progress α)} {result : Except Failure (List α)}
    (h : collect list = some result) : list.mapM Progress.outcome = result := by
  induction list generalizing result with
  | nil =>
    cases h
    rfl
  | cons progress rest ih =>
    rw [List.mapM_cons]
    -- Only a task that is done lets the collection go on.
    cases progress with
    | done outcome =>
      rcases outcome with failure | first
      · cases h
        rfl
      · rw [collect] at h
        rcases hrest : collect rest with _ | others
        · rw [hrest] at h
          cases h
        · rw [hrest, Option.map_some, Option.some.injEq] at h
          rw [← h, ih hrest]
          cases others <;> rfl
    | waiting task => cases h
    | running left outcome => cases h
    | dropped task => cases h

/-- A collection that has ended in spite of a task that is not over has ended with a failure before
it, and does not look at what comes from there on. -/
theorem collect_append_of_isOver_eq_false {before after : List (Progress α)} {progress : Progress α}
    {result : Except Failure (List α)} (hopen : progress.isOver = false)
    (h : collect (before ++ progress :: after) = some result) :
    (∃ failure, result = .error failure) ∧ ∀ rest, collect (before ++ rest) = some result := by
  -- The tasks before decide: the collection ends at the first failure among them, and without one
  -- it would have to wait for the task that is not over.
  induction before generalizing result with
  | nil =>
    cases progress with
    | done outcome => cases hopen
    | dropped task => cases hopen
    | waiting task => cases h
    | running left outcome => cases h
  | cons first before ih =>
    cases first with
    | done outcome =>
      rcases outcome with failure | first
      · cases h
        exact ⟨⟨failure, rfl⟩, fun rest => rfl⟩
      · rw [List.cons_append, collect] at h
        rcases hothers : collect (before ++ progress :: after) with _ | others
        · rw [hothers] at h
          cases h
        · rw [hothers, Option.map_some, Option.some.injEq] at h
          obtain ⟨⟨failure, rfl⟩, hrest⟩ := ih hothers
          refine ⟨⟨failure, h.symm⟩, fun rest => ?_⟩
          rw [List.cons_append, collect, hrest rest, Option.map_some, h]
    | waiting task => cases h
    | running left outcome => cases h
    | dropped task => cases h

/-- Tasks that have all come to their outcome can be collected. -/
theorem exists_collect {list : List (Progress α)}
    (h : ∀ progress ∈ list, ∃ outcome, progress = .done outcome) :
    ∃ result, collect list = some result := by
  induction list with
  | nil => exact ⟨_, rfl⟩
  | cons progress rest ih =>
    obtain ⟨⟨outcome, rfl⟩, hrest⟩ := List.forall_mem_cons.1 h
    obtain ⟨others, hothers⟩ := ih hrest
    rcases outcome with failure | first
    · exact ⟨_, rfl⟩
    · exact ⟨others.map (first :: ·), by rw [collect, hothers, Option.map_some]⟩

variable {workers : Nat} {pool next : Pool α}

/-- A step changes one task that is not over: it keeps the outcome, lets happen what comes first in
it, and leaves less work. -/
theorem Step.replaces (h : Step workers pool next) :
    ∃ before progress changed after new, pool.tasks = before ++ progress :: after ∧
      next.tasks = before ++ changed :: after ∧ next.events = pool.events ++ new ∧
      progress.isOver = false ∧ changed.outcome = progress.outcome ∧
      progress.left = new ++ changed.left ∧ changed.work < progress.work ∧
      ∀ task, changed = .dropped task →
        ∃ failure, collect pool.tasks = some (.error failure) := by
  cases h with
  | @take before after task events =>
    refine ⟨before, _, _, after, [], rfl, rfl, (List.append_nil _).symm, rfl, rfl, rfl, ?_, ?_⟩
    · exact Nat.lt_succ_self _
    · intro other hother
      cases hother
  | @happen before after event left outcome events =>
    refine ⟨before, _, _, after, [event], rfl, rfl, rfl, rfl, rfl, rfl, ?_, ?_⟩
    · exact Nat.lt_succ_self _
    · intro other hother
      cases hother
  | @finish before after outcome events =>
    refine ⟨before, _, _, after, [], rfl, rfl, (List.append_nil _).symm, rfl, rfl, rfl, ?_, ?_⟩
    · exact Nat.zero_lt_succ _
    · intro other hother
      cases hother
  | @drop before after task events failure hcollect =>
    refine ⟨before, _, _, after, [], rfl, rfl, (List.append_nil _).symm, rfl, rfl, rfl, ?_, ?_⟩
    · exact Nat.zero_lt_succ _
    · exact fun _ _ => ⟨failure, hcollect⟩

/-- What a pool keeps of the tasks that it was given. -/
structure Keeps (tasks : List (Task α)) (pool : Pool α) : Prop where
  /-- The outcomes are those of the tasks. -/
  outcomes : pool.tasks.map Progress.outcome = tasks.map Task.outcome
  /-- What has happened and what has not is together what belongs to the tasks. -/
  events : (pool.events ++ pool.tasks.flatMap Progress.left).Perm (tasks.flatMap Task.events)
  /-- A task is dropped only once a failure has been collected. -/
  dropped : ∀ task, .dropped task ∈ pool.tasks →
    ∃ failure, collect pool.tasks = some (.error failure)

namespace Keeps

variable {tasks : List (Task α)}

/-- A pool starts with its tasks. -/
theorem ofTasks (tasks : List (Task α)) : Keeps tasks (.ofTasks tasks) where
  outcomes := by
    rw [Pool.ofTasks, List.map_map]
    rfl
  events := by
    rw [Pool.ofTasks, List.nil_append, List.flatMap_map]
    exact .refl _
  dropped task h := by
    obtain ⟨other, -, hother⟩ := List.mem_map.1 h
    cases hother

/-- A step keeps the tasks. -/
theorem step (h : Keeps tasks pool) (hstep : Step workers pool next) : Keeps tasks next := by
  obtain ⟨before, progress, changed, after, new, htasks, htasks', hevents, hopen, houtcome, hleft,
    -, hdropped⟩ := hstep.replaces
  -- A failure that has been collected stays collected, because the changed task was not over.
  have hcollected {failure : Failure} (hfailure : collect pool.tasks = some (.error failure)) :
      collect next.tasks = some (.error failure) := by
    rw [htasks] at hfailure
    rw [htasks']
    exact (collect_append_of_isOver_eq_false hopen hfailure).2 _
  refine ⟨?_, ?_, fun task hmem => ?_⟩
  · rw [← h.outcomes, htasks, htasks', List.map_append, List.map_append, List.map_cons,
      List.map_cons, houtcome]
  · -- What happens moves to the front, past what is left of the tasks before.
    have hmoved : (next.events ++ next.tasks.flatMap Progress.left).Perm
        (pool.events ++ pool.tasks.flatMap Progress.left) := by
      rw [hevents, htasks, htasks', List.flatMap_append, List.flatMap_append, List.flatMap_cons,
        List.flatMap_cons, hleft, List.append_assoc, List.append_assoc]
      exact (List.perm_append_comm_assoc ..).append_left pool.events
    exact hmoved.trans h.events
  · rw [htasks', List.mem_append, List.mem_cons] at hmem
    have hbefore : .dropped task ∈ pool.tasks ∨ changed = .dropped task := by
      rw [htasks, List.mem_append, List.mem_cons]
      rcases hmem with hmem | hmem | hmem
      · exact Or.inl (Or.inl hmem)
      · exact Or.inr hmem.symm
      · exact Or.inl (Or.inr (Or.inr hmem))
    obtain ⟨failure, hfailure⟩ := hbefore.elim (h.dropped task) (hdropped task)
    exact ⟨failure, hcollected hfailure⟩

/-- Every run keeps the tasks. -/
theorem of_reaches (h : Reaches workers (.ofTasks tasks) pool) : Keeps tasks pool := by
  induction h with
  | refl => exact ofTasks tasks
  | step _ hstep ih => exact ih.step hstep

/-- What is collected is what the tasks come to in turn. -/
theorem eq_of_collect (h : Keeps tasks pool) {result : Except Failure (List α)}
    (hcollect : collect pool.tasks = some result) : result = tasks.mapM Task.outcome := by
  -- Both lists of outcomes are the same, and so is what they come to in order.
  have houtcomes := congrArg (List.mapM id) h.outcomes
  rw [List.mapM_map, List.mapM_map] at houtcomes
  rw [← mapM_outcome_of_collect hcollect]
  exact houtcomes

/-- In a pool that has ended every task has come to its outcome, or a failure can be collected. -/
theorem done_or_failure (h : Keeps tasks pool) (hended : pool.Ended) :
    (∀ progress ∈ pool.tasks, ∃ outcome, progress = .done outcome) ∨
      ∃ failure, collect pool.tasks = some (.error failure) := by
  by_cases hdropped : ∃ task, .dropped task ∈ pool.tasks
  · obtain ⟨task, htask⟩ := hdropped
    exact Or.inr (h.dropped task htask)
  · refine Or.inl fun progress hmem => ?_
    have hover := hended progress hmem
    cases progress with
    | done outcome => exact ⟨outcome, rfl⟩
    | dropped task => exact absurd ⟨task, hmem⟩ hdropped
    | waiting task => cases hover
    | running left outcome => cases hover

/-- A pool that has ended can be collected. -/
theorem exists_collect (h : Keeps tasks pool) (hended : pool.Ended) :
    ∃ result, collect pool.tasks = some result := by
  rcases h.done_or_failure hended with hdone | ⟨failure, hfailure⟩
  · exact Pool.exists_collect hdone
  · exact ⟨_, hfailure⟩

/-- If no task fails, everything that belongs to the tasks has happened at the end. -/
theorem events_of_ok (h : Keeps tasks pool) (hended : pool.Ended) {results : List α}
    (hcollect : collect pool.tasks = some (.ok results)) :
    pool.events.Perm (tasks.flatMap Task.events) := by
  rcases h.done_or_failure hended with hdone | ⟨failure, hfailure⟩
  · -- Nothing is left of tasks that are done.
    have hleft : pool.tasks.flatMap Progress.left = [] := by
      rw [List.flatMap_eq_nil_iff]
      intro progress hmem
      obtain ⟨outcome, rfl⟩ := hdone progress hmem
      rfl
    have hevents := h.events
    rwa [hleft, List.append_nil] at hevents
  · rw [hcollect] at hfailure
    cases hfailure

end Keeps

/-- A pool with a worker can go on until it has ended. -/
theorem exists_step (hworkers : 0 < workers) (pool : Pool α) (h : ¬ pool.Ended) :
    ∃ next, Step workers pool next := by
  obtain ⟨tasks, events⟩ := pool
  by_cases hrunning : ∃ left outcome, .running left outcome ∈ tasks
  · -- A task that has been taken can go on whatever the others do.
    obtain ⟨left, outcome, hmem⟩ := hrunning
    obtain ⟨before, after, rfl⟩ := List.append_of_mem hmem
    cases left with
    | nil => exact ⟨_, .finish⟩
    | cons event left => exact ⟨_, .happen⟩
  · -- No worker is at a task, so there is one for a task that waits.
    have hbusy : busy { tasks, events } = 0 := by
      rw [busy, List.countP_eq_zero]
      intro progress hmem
      cases progress with
      | running left outcome => exact absurd ⟨left, outcome, hmem⟩ hrunning
      | waiting task => exact Bool.false_ne_true
      | done outcome => exact Bool.false_ne_true
      | dropped task => exact Bool.false_ne_true
    rw [Ended] at h
    push Not at h
    obtain ⟨progress, hmem, hopen⟩ := h
    cases progress with
    | waiting task =>
      obtain ⟨before, after, rfl⟩ := List.append_of_mem hmem
      exact ⟨_, .take (hbusy ▸ hworkers)⟩
    | running left outcome => exact absurd ⟨left, outcome, hmem⟩ hrunning
    | done outcome => exact absurd rfl hopen
    | dropped task => exact absurd rfl hopen

/-- The number of steps that tasks may still take. -/
def workOf : List (Progress α) → Nat
  | [] => 0
  | progress :: rest => progress.work + workOf rest

/-- The work of tasks and of others adds up. -/
theorem workOf_append (tasks others : List (Progress α)) :
    workOf (tasks ++ others) = workOf tasks + workOf others := by
  induction tasks with
  | nil => simp [workOf]
  | cons progress rest ih => simp [workOf, ih, Nat.add_assoc]

/-- The number of steps that a pool may still take. -/
def work (pool : Pool α) : Nat :=
  workOf pool.tasks

/-- Every step leaves less work. -/
theorem Step.work_lt (h : Step workers pool next) : next.work < pool.work := by
  obtain ⟨before, progress, changed, after, new, htasks, htasks', -, -, -, -, hless, -⟩ :=
    h.replaces
  rw [work, work, htasks, htasks', workOf_append, workOf_append, workOf, workOf]
  omega

/-- No schedule goes on forever. -/
theorem exists_not_step (workers : Nat) (schedule : Nat → Pool α) :
    ∃ n, ¬ Step workers (schedule n) (schedule (n + 1)) := by
  by_contra hforever
  push Not at hforever
  -- Every step takes at least one unit of work, of which there is only so much.
  have hwork (n : Nat) : (schedule n).work + n ≤ (schedule 0).work := by
    induction n with
    | zero => exact Nat.le_refl _
    | succ n ih =>
      have hless := (hforever n).work_lt
      omega
  have htoolate := hwork ((schedule 0).work + 1)
  omega

/-- What a pool may come to may come to more. -/
theorem Reaches.trans {middle last : Pool α} (first : Reaches workers pool middle)
    (second : Reaches workers middle last) : Reaches workers pool last := by
  induction second with
  | refl => exact first
  | step _ hstep ih => exact ih.step hstep

/-- Everything that belongs to a task may happen at one go. -/
theorem reaches_events (before after : List (Progress α)) (outcome : Except Failure α)
    (left events : List Event) :
    Reaches workers
      { tasks := before ++ .running left outcome :: after, events }
      { tasks := before ++ .running [] outcome :: after, events := events ++ left } := by
  induction left generalizing events with
  | nil =>
    rw [List.append_nil]
    exact .refl
  | cons event left ih =>
    have hrest := ih (events ++ [event])
    rw [List.append_assoc, List.singleton_append] at hrest
    exact (Reaches.refl.step .happen).trans hrest

/-- Tasks may be done one after the other. -/
theorem reaches_done (hworkers : 0 < workers) (tasks : List (Task α))
    (before : List (Progress α)) (hidle : before.countP (·.isRunning) = 0) (events : List Event) :
    Reaches workers
      { tasks := before ++ tasks.map .waiting, events }
      { tasks := before ++ tasks.map fun task => .done task.outcome
        events := events ++ tasks.flatMap Task.events } := by
  induction tasks generalizing before events with
  | nil =>
    rw [List.flatMap_nil, List.append_nil]
    exact .refl
  | cons task rest ih =>
    let waiting : List (Progress α) := rest.map .waiting
    -- Before each task no worker is at another one, so there is one for it.
    have hfree : busy { tasks := before ++ .waiting task :: waiting, events } < workers := by
      have hwaiting : waiting.countP (·.isRunning) = 0 := by
        rw [List.countP_eq_zero]
        intro progress hmem
        obtain ⟨other, -, rfl⟩ := List.mem_map.1 hmem
        exact Bool.false_ne_true
      rw [busy, List.countP_append, hidle, List.countP_cons_of_neg Bool.false_ne_true, hwaiting]
      exact hworkers
    have htaken := (Reaches.refl.step (.take hfree)).trans
      (reaches_events before waiting task.outcome task.events events)
    -- With the first task done, the others are done after it.
    have hidle' : (before ++ [Progress.done task.outcome]).countP (·.isRunning) = 0 := by
      rw [List.countP_append, hidle]
      rfl
    have hrest := ih _ hidle' (events ++ task.events)
    rw [List.append_assoc, List.append_assoc, List.append_assoc, List.singleton_append,
      List.singleton_append] at hrest
    exact (htaken.step .finish).trans hrest

/-- The outcomes of tasks that are all done can be collected. -/
theorem collect_done (tasks : List (Task α)) :
    collect (tasks.map fun task => Progress.done task.outcome) =
      some (tasks.mapM Task.outcome) := by
  have hdone : ∀ progress ∈ tasks.map fun task => Progress.done task.outcome,
      ∃ outcome, progress = .done outcome := by
    intro progress hmem
    obtain ⟨task, -, rfl⟩ := List.mem_map.1 hmem
    exact ⟨_, rfl⟩
  obtain ⟨result, hresult⟩ := exists_collect hdone
  rw [hresult, ← mapM_outcome_of_collect hresult, List.mapM_map]
  rfl

end Pool

end BuildAudit
