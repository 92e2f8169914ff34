import BuildAudit.Proofs.Audit.Pool

/-!
# Audits with several workers

With an import graph that only depends on the patterns, the audits of the packages are tasks. So
whichever way several workers share them, the report is the one that a single worker gives, and the
failure of an audit is that of the earliest package that fails (`workersAgree`).
-/

namespace BuildAudit

namespace AuditContext

/-- Audits of all packages by a number of workers do not differ from an audit by one worker. -/
structure WorkersAgree (context : AuditContext) (workers : Nat) (session : Session) : Prop where
  /-- The audit as it is computed is one of those that there may be. -/
  computed : context.MayReport workers session (context.audit (.int workers) .all session).1
    (context.audit (.int workers) .all session).2
  /-- Every audit has the outcome of an audit by one worker. -/
  outcome : ∀ outcome later, context.MayReport workers session outcome later →
    outcome = (context.audit (.int 1) .all session).1
  /-- A failure is that of the earliest package that fails. -/
  earliest : ∀ failure later, context.MayReport workers session (.error failure) later →
    ∃ before package after, context.packages = before ++ package :: after ∧
      (∀ other ∈ before, ∃ found, (context.auditPackage other session).1 = .ok found) ∧
      (context.auditPackage package session).1 = .error failure
  /-- An audit that comes to its end makes the calls and logs the records of an audit by one worker,
  in any order. -/
  happens : ∀ found later, context.MayReport workers session (.ok found) later →
    later.calls.Perm (context.audit (.int 1) .all session).2.calls ∧
      later.records.Perm (context.audit (.int 1) .all session).2.records
  /-- Whatever has happened in a pool of the audits, either more can happen or the outcomes can be
  collected. -/
  ends : ∀ tasks pool, context.packages.map context.auditPackage = tasks.map Task.act →
    Pool.Reaches workers (.ofTasks tasks) pool →
      (∃ next, Pool.Step workers pool next) ∨
        pool.Ended ∧ ∃ outcome, Pool.collect pool.tasks = some outcome
  /-- No schedule of a pool goes on forever. -/
  finite : ∀ schedule : Nat → Pool (List Diagnostic),
    ∃ n, ¬ Pool.Step workers (schedule n) (schedule (n + 1))

variable (context : AuditContext) (arguments : List String) (source : NameSet → Reply ImportGraph)
  {workers : Nat}

/-- A number of workers that is at least one is allowed. -/
theorem checkWorkers_of_pos (hworkers : 1 ≤ workers) : checkWorkers (.int workers) = .ok () := by
  have hbelow : Settings.isBelowOne? (.int workers) = some false := by
    rw [Settings.isBelowOne?, Option.some.injEq, decide_eq_false_iff_not]
    omega
  rw [checkWorkers, hbelow]

/-- What is computed for several workers is one of the ways in which they may share the packages. -/
theorem mayAudit_auditPackages (hworkers : 1 ≤ workers) (packages : List Package)
    (session : Session) :
    (context.asking arguments source).MayAudit workers packages session
      ((context.asking arguments source).auditPackages (.int workers) packages session).1
      ((context.asking arguments source).auditPackages (.int workers) packages session).2 := by
  have hcondition : (isOne (.int workers) || decide (packages.length < 2)) = true ↔
      workers = 1 ∨ packages.length < 2 := by
    rw [Bool.or_eq_true, decide_eq_true_iff, isOne, beq_iff_eq]
    omega
  rw [auditPackages]
  by_cases hturn : workers = 1 ∨ packages.length < 2
  · rw [if_pos (hcondition.2 hturn)]
    exact .inTurn hturn rfl
  · rw [if_neg fun h => hturn (hcondition.1 h), context.map_auditPackage_asking, Task.all_map_act]
    -- The tasks are done one after the other, so none is dropped.
    refine .sideBySide hturn (context.map_auditPackage_asking arguments source packages)
      (Pool.reaches_done hworkers _ [] rfl []) ?_ (Pool.collect_done _)
    intro progress hmem
    obtain ⟨task, -, rfl⟩ := List.mem_map.1 hmem
    rfl

variable {context arguments source}

/-- However the packages are shared, their courses come to what they come to in turn, and if none of
them fails, all of them happen. -/
theorem outcome_of_mayAudit {packages : List Package} {session later : Session}
    {outcome : Except Failure (List (List Diagnostic))}
    (h : (context.asking arguments source).MayAudit workers packages session outcome later) :
    outcome = (packages.map (context.course arguments source)).mapM Task.outcome ∧
      ∀ found, outcome = .ok found → ∃ events, later = session.extend events ∧
        events.Perm ((packages.map (context.course arguments source)).flatMap Task.events) := by
  cases h with
  | inTurn _ hturn =>
    rw [context.map_auditPackage_asking, Task.inTurn_map_act, Task.act_apply] at hturn
    obtain ⟨rfl, rfl⟩ := Prod.mk.inj hturn
    have houtcome := Task.outcome_inTurn (packages.map (context.course arguments source))
    refine ⟨houtcome, fun found hfound => ⟨_, rfl, ?_⟩⟩
    rw [Task.events_inTurn (houtcome.symm.trans hfound)]
  | @sideBySide tasks pool _ _ htasks hreaches hended hcollect =>
    rw [context.map_auditPackage_asking] at htasks
    obtain rfl := Function.Injective.list_map Task.act_injective htasks
    -- However the steps were scheduled, the pool keeps the outcomes and the events of its tasks.
    have hkeeps := Pool.Keeps.of_reaches hreaches
    refine ⟨hkeeps.eq_of_collect hcollect, ?_⟩
    rintro found rfl
    exact ⟨pool.events, rfl, hkeeps.events_of_ok hended hcollect⟩

/-- Every report has the outcome of one by one worker. -/
theorem eq_of_mayReport {session later : Session} {outcome : Except Failure (List Diagnostic)}
    (h : (context.asking arguments source).MayReport workers session outcome later) :
    outcome = ((context.asking arguments source).audit (.int 1) .all session).1 := by
  obtain ⟨audits, middle, haudits, hlater⟩ := h
  have houtcome : audits.map List.flatten = outcome := by
    rw [← conclude_fst audits middle, hlater]
  rw [packages_asking] at haudits
  rw [audit_asking_one arguments source rfl, conclude_fst, Task.outcome_inTurn, ← houtcome,
    (outcome_of_mayAudit haudits).1]

/-- Everything that happens until a report happens in one by one worker too. -/
theorem events_perm_of_mayReport {session later : Session} {found : List Diagnostic}
    (h : (context.asking arguments source).MayReport workers session (.ok found) later) :
    later.events.Perm ((context.asking arguments source).audit (.int 1) .all session).2.events := by
  obtain ⟨audits, middle, haudits, hlater⟩ := h
  rw [packages_asking] at haudits
  obtain ⟨houtcome, hevents⟩ := outcome_of_mayAudit haudits
  rcases audits with failure | audits
  · rw [conclude_of_error] at hlater
    cases hlater
  · obtain ⟨events, rfl, hperm⟩ := hevents audits rfl
    rw [conclude_of_ok] at hlater
    obtain ⟨-, rfl⟩ := Prod.mk.inj hlater
    rw [audit_asking_one arguments source rfl, Task.outcome_inTurn,
      Task.events_inTurn houtcome.symm, ← houtcome, conclude_of_ok, announce_apply]
    simp only [Session.extend, List.append_assoc, List.cons_append]
    -- The notice stays first and the closing last; the schedule only reorders what is between.
    exact ((hperm.append_right _).cons _).append_left _

/-- However many workers share the packages, and whichever way they do, an audit reports what one
worker reports. -/
theorem workersAgree (context : AuditContext) (arguments : List String)
    (source : NameSet → Reply ImportGraph) (hworkers : 1 ≤ workers) (session : Session) :
    (context.asking arguments source).WorkersAgree workers session where
  computed := by
    refine ⟨_, _, context.mayAudit_auditPackages arguments source hworkers _ _, ?_⟩
    exact (audit_eq_conclude (checkWorkers_of_pos hworkers) rfl session).symm
  outcome _ _ h := eq_of_mayReport h
  earliest failure later h := by
    obtain ⟨audits, middle, haudits, hlater⟩ := h
    obtain ⟨houtcome, -⟩ := outcome_of_mayAudit haudits
    rcases audits with failure' | audits
    · rw [conclude_of_error] at hlater
      cases hlater
      rw [List.mapM_map] at houtcome
      -- The outcome of the courses in turn has the failure that comes first in the list.
      obtain ⟨before, package, after, hsplit, hbefore, hpackage⟩ :=
        exists_earliest_failure houtcome.symm
      refine ⟨before, package, after, hsplit, fun other hother => ?_, ?_⟩
      · rw [context.auditPackage_asking]
        exact hbefore other hother
      · rw [context.auditPackage_asking]
        exact hpackage
    · rw [conclude_of_ok] at hlater
      cases hlater
  happens found later h := by
    have hperm := events_perm_of_mayReport h
    exact ⟨hperm.filterMap _, hperm.filterMap _⟩
  ends tasks pool _ hreaches := by
    by_cases hended : pool.Ended
    · exact Or.inr ⟨hended, (Pool.Keeps.of_reaches hreaches).exists_collect hended⟩
    · exact Or.inl (Pool.exists_step hworkers pool hended)
  finite := Pool.exists_not_step workers

/-- Two workers report on three packages what one of them would. -/
theorem workersAgree_trio : 1 ≤ 2 ∧ (trio.asking [] coreless).WorkersAgree 2 .bare := by
  have hworkers : 1 ≤ 2 := by decide
  exact ⟨hworkers, workersAgree trio [] coreless hworkers .bare⟩

end AuditContext

end BuildAudit
