import BuildAudit.Audit.Run

/-!
# Audits side by side

With several workers the audits of the packages are the tasks of a pool. At first every task waits.
A worker that is free takes a waiting task, and what happens during it comes between what happens
during the tasks of the other workers. The outcomes are collected in the order of the tasks,
whatever the order in which the tasks end, up to the first failure; once that is collected, tasks
that still wait may be dropped, while those that have been taken go on to their end.

So an audit with several workers has many courses, one for each schedule of its pool. `MayReport`
says which outcomes these may have. The course of `AuditContext.audit`, in which the tasks are done
one after the other, is one of them.
-/

namespace BuildAudit

variable {α : Type}

/-- Work with a course that is fixed: what happens during it, in order, and its outcome. -/
structure Task (α : Type) where
  /-- What happens. -/
  events : List Event
  /-- The outcome. -/
  outcome : Except Failure α

/-- Does a task at one go. -/
def Task.act (task : Task α) : Action α := fun session =>
  (task.outcome, { session with events := session.events ++ task.events })

/-- How far a task of a pool is. -/
inductive Progress (α : Type) where
  /-- No worker has taken the task. -/
  | waiting (task : Task α)
  /-- A worker is at the task; the events are those still to happen. -/
  | running (left : List Event) (outcome : Except Failure α)
  /-- The task has come to its outcome. -/
  | done (outcome : Except Failure α)
  /-- The task is not going to be taken any more. -/
  | dropped (task : Task α)

namespace Progress

/-- Whether a worker is at a task. -/
def isRunning : Progress α → Bool
  | .running .. => true
  | _ => false

/-- Whether nothing is going to happen to a task any more. -/
def isOver : Progress α → Bool
  | .done _ | .dropped _ => true
  | _ => false

end Progress

/-- Tasks with everything that has happened during them so far. -/
structure Pool (α : Type) where
  /-- The tasks in the order in which they were given, each as far as it is. -/
  tasks : List (Progress α)
  /-- What has happened, in order. -/
  events : List Event

namespace Pool

/-- A pool in which every task waits. -/
def ofTasks (tasks : List (Task α)) : Pool α where
  tasks := tasks.map .waiting
  events := []

/-- The number of workers that are at a task. -/
def busy (pool : Pool α) : Nat :=
  pool.tasks.countP (·.isRunning)

/-- Collects the outcomes of tasks in order, up to the first failure. There is nothing to collect as
long as a task before that has not come to its outcome. -/
def collect : List (Progress α) → Option (Except Failure (List α))
  | [] => some (.ok [])
  | .done (.ok result) :: rest => (collect rest).map fun others => others.map (result :: ·)
  | .done (.error failure) :: _ => some (.error failure)
  -- The outcome of this task is awaited, even if others after it have ended.
  | _ :: _ => none

/-- What may happen next in a pool with a number of workers. -/
inductive Step (workers : Nat) : Pool α → Pool α → Prop
  /-- A worker that is free takes a task. -/
  | take {before after : List (Progress α)} {task : Task α} {events : List Event} :
      busy { tasks := before ++ .waiting task :: after, events } < workers →
      Step workers
        { tasks := before ++ .waiting task :: after, events }
        { tasks := before ++ .running task.events task.outcome :: after, events }
  /-- The next event of a task happens. -/
  | happen {before after : List (Progress α)} {event : Event} {left : List Event}
      {outcome : Except Failure α} {events : List Event} :
      Step workers
        { tasks := before ++ .running (event :: left) outcome :: after, events }
        { tasks := before ++ .running left outcome :: after, events := events ++ [event] }
  /-- A task comes to its outcome. -/
  | finish {before after : List (Progress α)} {outcome : Except Failure α} {events : List Event} :
      Step workers
        { tasks := before ++ .running [] outcome :: after, events }
        { tasks := before ++ .done outcome :: after, events }
  /-- A waiting task is dropped because a failure has been collected. -/
  | drop {before after : List (Progress α)} {task : Task α} {events : List Event}
      {failure : Failure} :
      collect (before ++ .waiting task :: after) = some (.error failure) →
      Step workers
        { tasks := before ++ .waiting task :: after, events }
        { tasks := before ++ .dropped task :: after, events }

/-- What a pool may come to. -/
inductive Reaches (workers : Nat) (pool : Pool α) : Pool α → Prop
  /-- A pool may stay as it is. -/
  | refl : Reaches workers pool pool
  /-- More may happen. -/
  | step {middle later : Pool α} :
      Reaches workers pool middle → Step workers middle later → Reaches workers pool later

/-- Nothing is going to happen in a pool any more. -/
def Ended (pool : Pool α) : Prop :=
  ∀ progress ∈ pool.tasks, progress.isOver = true

end Pool

namespace AuditContext

/-- What the audits of packages may come to, with a number of workers: one worker, or fewer than two
packages, need no pool. -/
inductive MayAudit (context : AuditContext) (workers : Nat) (packages : List Package)
    (session : Session) : Except Failure (List (List Diagnostic)) → Session → Prop
  /-- The packages are audited one after the other. -/
  | inTurn {outcome : Except Failure (List (List Diagnostic))} {later : Session} :
      workers = 1 ∨ packages.length < 2 →
      Action.inTurn (packages.map context.auditPackage) session = (outcome, later) →
      MayAudit context workers packages session outcome later
  /-- The packages are audited in a pool, which has come to its end. -/
  | sideBySide {tasks : List (Task (List Diagnostic))} {pool : Pool (List Diagnostic)}
      {outcome : Except Failure (List (List Diagnostic))} :
      ¬ (workers = 1 ∨ packages.length < 2) →
      packages.map context.auditPackage = tasks.map Task.act →
      Pool.Reaches workers (.ofTasks tasks) pool →
      pool.Ended →
      Pool.collect pool.tasks = some outcome →
      MayAudit context workers packages session outcome
        { session with events := session.events ++ pool.events }

/-- Says that an audit begins. -/
def announce : Action Unit :=
  Action.log .info "Looking for unused and undeclared transitive dependencies..."

/-- Gives what the audits of the packages have found, and says so if that is nothing. -/
def conclude (outcome : Except Failure (List (List Diagnostic))) : Action (List Diagnostic) := do
  let found ← Action.ofExcept outcome
  if found.flatten.isEmpty then
    Action.log .info "No problems found in dependency usage"
  pure found.flatten

/-- What an audit of all packages may report, with a number of workers. -/
def MayReport (context : AuditContext) (workers : Nat) (session : Session)
    (outcome : Except Failure (List Diagnostic)) (later : Session) : Prop :=
  ∃ audits middle,
    context.MayAudit workers context.packages (announce session).2 audits middle ∧
    conclude audits middle = (outcome, later)

end AuditContext

end BuildAudit
