import BuildAudit.Audit.Workers
import BuildAudit.Graph.Decode
import BuildAudit.Proofs.Audit.Run
import BuildAudit.Proofs.Checks

/-!
# Audits as tasks

If the import graphs come from a source that only depends on the patterns, the audit of a package is
a task: what happens during it and its outcome do not depend on the session (`auditPackage_asking`).
Such tasks can be put together: done in turn they are one task again (`Task.inTurn_map_act`), and an
audit announces itself, does its tasks and concludes (`audit_asking_one`).
-/

namespace BuildAudit

namespace Task

variable {α : Type}

/-- Doing a task adds its events and gives its outcome. -/
theorem act_apply (task : Task α) (session : Session) :
    task.act session = (task.outcome, session.extend task.events) := rfl

/-- Tasks that do the same are the same. -/
theorem act_injective : Function.Injective (act : Task α → Action α) := by
  intro task other h
  -- In a session without events the events of a task are all that there are.
  have hbare := congrFun h Session.bare
  rw [act_apply, act_apply, Prod.mk.injEq] at hbare
  obtain ⟨houtcome, hlater⟩ := hbare
  have hevents : task.events = other.events := congrArg Session.events hlater
  cases task
  cases other
  simp_all

/-- Tasks that are done in turn until one fails, as one task. -/
def inTurn : List (Task α) → Task (List α)
  | [] => { events := [], outcome := .ok [] }
  | task :: rest =>
    match task.outcome with
    | .error failure => { events := task.events, outcome := .error failure }
    | .ok result => {
        events := task.events ++ (inTurn rest).events
        outcome := (inTurn rest).outcome.map (result :: ·) }

/-- To do tasks in turn is to do one task. -/
theorem inTurn_map_act (tasks : List (Task α)) :
    Action.inTurn (tasks.map act) = (inTurn tasks).act := by
  funext session
  -- The rest of the tasks starts from the session after the first one.
  induction tasks generalizing session with
  | nil =>
    rw [inTurn, act_apply, Session.extend_nil]
    rfl
  | cons task rest ih =>
    rw [List.map_cons, Action.inTurn, inTurn]
    rcases houtcome : task.outcome with failure | result
    · have hfirst : task.act session = (.error failure, session.extend task.events) := by
        rw [act_apply, houtcome]
      exact bind_of_error hfirst
    · have hfirst : task.act session = (.ok result, session.extend task.events) := by
        rw [act_apply, houtcome]
      rw [bind_of_ok hfirst, act_apply, ← Session.extend_extend]
      have hrest := ih (session.extend task.events)
      rw [act_apply] at hrest
      rcases hothers : (inTurn rest).outcome with failure | others
      · rw [hothers] at hrest
        exact bind_of_error hrest
      · rw [hothers] at hrest
        exact bind_of_ok hrest

/-- Tasks in turn have the results of all of them, or the first failure. -/
theorem outcome_inTurn (tasks : List (Task α)) :
    (inTurn tasks).outcome = tasks.mapM Task.outcome := by
  induction tasks with
  | nil => rfl
  | cons task rest ih =>
    rw [inTurn, List.mapM_cons, ← ih]
    rcases task.outcome with failure | result
    · rfl
    · rcases (inTurn rest).outcome with failure | others <;> rfl

/-- Everything that belongs to tasks happens if none of them fails. -/
theorem events_inTurn {tasks : List (Task α)} {results : List α}
    (h : tasks.mapM Task.outcome = .ok results) :
    (inTurn tasks).events = tasks.flatMap Task.events := by
  induction tasks generalizing results with
  | nil => rfl
  | cons task rest ih =>
    rw [List.mapM_cons] at h
    rw [inTurn, List.flatMap_cons]
    rcases houtcome : task.outcome with failure | result
    · rw [houtcome] at h
      cases h
    · rw [houtcome] at h
      rcases hrest : rest.mapM Task.outcome with failure | others
      · rw [hrest] at h
        cases h
      · rw [ih hrest]

/-- Everything that belongs to a single task happens in its turn. -/
theorem events_inTurn_singleton (task : Task α) : (inTurn [task]).events = task.events := by
  rw [inTurn]
  split
  · rfl
  · exact List.append_nil _

/-- To do all tasks, also after a failure, is to let everything happen that belongs to them. -/
theorem all_map_act (tasks : List (Task α)) (session : Session) :
    Action.all (tasks.map act) session =
      (tasks.mapM Task.outcome, session.extend (tasks.flatMap Task.events)) := by
  induction tasks generalizing session with
  | nil =>
    rw [List.flatMap_nil, Session.extend_nil]
    rfl
  | cons task rest ih =>
    -- The rest is done whatever the first task comes to, so its events are always there.
    rw [List.map_cons, Action.all, bind_of_ok (Action.outcome_apply _ session), act_apply,
      bind_of_ok (Action.outcome_apply _ _), ih, List.mapM_cons, List.flatMap_cons,
      ← Session.extend_extend]
    rcases task.outcome with failure | result
    · rfl
    · rcases rest.mapM Task.outcome with failure | others <;> rfl

end Task

section InOrder

variable {α β : Type} {f g : α → Except Failure β} {list : List α}

/-- Without results in order there is an earliest failure. -/
theorem exists_earliest_failure {failure : Failure} (h : list.mapM f = .error failure) :
    ∃ before first after, list = before ++ first :: after ∧
      (∀ other ∈ before, ∃ result, f other = .ok result) ∧ f first = .error failure := by
  induction list with
  | nil => cases h
  | cons item rest ih =>
    rw [List.mapM_cons] at h
    -- The first item fails itself, or it has a result and the failure is one of the rest.
    rcases hfirst : f item with failure' | result
    · rw [hfirst] at h
      cases h
      exact ⟨[], item, rest, rfl, fun _ h => absurd h List.not_mem_nil, hfirst⟩
    · rw [hfirst] at h
      rcases hrest : rest.mapM f with failure' | others
      · rw [hrest] at h
        cases h
        obtain ⟨before, later, after, rfl, hbefore, hlater⟩ := ih hrest
        exact ⟨item :: before, later, after, rfl,
          List.forall_mem_cons.2 ⟨⟨result, hfirst⟩, hbefore⟩, hlater⟩
      · rw [hrest] at h
        cases h

/-- Results in order depend only on the items of the list. -/
theorem mapM_congr_left (h : ∀ item ∈ list, f item = g item) : list.mapM f = list.mapM g := by
  induction list with
  | nil => rfl
  | cons item rest ih =>
    obtain ⟨hitem, hrest⟩ := List.forall_mem_cons.1 h
    rw [List.mapM_cons, List.mapM_cons, hitem, ih hrest]

end InOrder

/-- The record of a package that is left out. -/
def skipRecord (package : Package) (cause : GraphCause) : LogRecord where
  level := .warning
  text :=
    s!"Could not decode the import graph for package {package.name}, " ++
      "skipping its audit: " ++ cause.reason

/-- The record of an audit that finds nothing. -/
def cleanRecord : LogRecord where
  level := .info
  text := "No problems found in dependency usage"

/-- What is logged at the end of an audit. -/
def closing (diagnostics : List Diagnostic) : List Event :=
  if diagnostics.isEmpty then [.logged cleanRecord] else []

namespace AuditContext

variable (context : AuditContext) (arguments : List String) (source : NameSet → Reply ImportGraph)

/-- The context with import graphs from a source that is asked with arguments. -/
def asking : AuditContext :=
  { context with graphOf := fun globs =>
      Tools.perform (.graph globs arguments) fun _ => source globs }

@[simp]
theorem packages_asking : (context.asking arguments source).packages = context.packages := rfl

/-- What happens when a source is asked. -/
def askEvents (globs : NameSet) : List Event :=
  .called (.graph globs arguments) :: (source globs).records.map .logged

/-- A source that is asked gives its answer. -/
theorem graphOf_asking_apply (globs : NameSet) (session : Session) :
    (context.asking arguments source).graphOf globs session =
      ((source globs).answer, session.extend (askEvents arguments source globs)) := by
  have hgraph : (context.asking arguments source).graphOf globs =
      Tools.perform (.graph globs arguments) fun _ => source globs := rfl
  rw [hgraph, Tools.perform_apply, askEvents]

/-- What is left to do about a package once the source has answered. -/
def appraisal (package : Package) : Except Failure ImportGraph → Task (List Diagnostic)
  | .ok graph =>
    match context.declaredOf package.name with
    | .error failure => { events := [], outcome := .error failure }
    | .ok declared =>
      let report := graph.usage package.name declared
      { events := [.logged (graph.usageRecord package.name report)]
        outcome := .ok (report.diagnostics package.name context.installCommand) }
  | .error (.fault (.graph fault)) =>
    { events := [.logged (skipRecord package fault.cause)], outcome := .ok [] }
  | .error failure => { events := [], outcome := .error failure }

/-- The audit of a package as a task. -/
def course (package : Package) : Task (List Diagnostic) :=
  match context.globsFor package with
  | .error failure => { events := [], outcome := .error failure }
  | .ok globs =>
    let rest := context.appraisal package (source globs).answer
    { events := askEvents arguments source globs ++ rest.events, outcome := rest.outcome }

/-- The course of an audit with known patterns. -/
theorem course_of_ok {package : Package} {globs : NameSet}
    (h : context.globsFor package = .ok globs) :
    context.course arguments source package = {
      events := askEvents arguments source globs ++
        (context.appraisal package (source globs).answer).events
      outcome := (context.appraisal package (source globs).answer).outcome } := by
  rw [course, h]

/-- With a graph, the package is compared with it. -/
theorem compare_apply_eq (package : Package) (graph : ImportGraph) (session : Session) :
    context.compare package graph session =
      (context.appraisal package (.ok graph)).act session := by
  rw [compare, appraisal]
  rcases context.declaredOf package.name with failure | declared
  · rw [bind_of_error (Action.ofExcept_apply _ session), Task.act_apply, Session.extend_nil]
  · rw [bind_of_ok (Action.ofExcept_apply _ session), bind_of_ok (Action.logAll_apply _ session)]
    rfl

/-- Without a graph, the package is left out. -/
theorem skip_apply_eq (package : Package) (fault : GraphFault) (session : Session) :
    skip package fault.cause session =
      (context.appraisal package (.error (.fault (.graph fault)))).act session := by
  rw [skip, bind_of_ok (Action.log_apply _ _ session)]
  rfl

/-- The audit of a package has its course in every session. -/
theorem auditPackage_asking (package : Package) :
    (context.asking arguments source).auditPackage package =
      (context.course arguments source package).act := by
  funext session
  have hglobs : Action.ofExcept ((context.asking arguments source).globsFor package) session =
      (context.globsFor package, session) := Action.ofExcept_apply _ session
  rw [auditPackage]
  rcases hpatterns : context.globsFor package with failure | globs
  · rw [hpatterns] at hglobs
    rw [bind_of_error hglobs, course, hpatterns, Task.act_apply, Session.extend_nil]
  · rw [hpatterns] at hglobs
    rw [context.course_of_ok arguments source hpatterns, bind_of_ok hglobs,
      bind_of_ok (Action.outcome_apply _ session), context.graphOf_asking_apply, Task.act_apply,
      ← Session.extend_extend]
    generalize session.extend (askEvents arguments source globs) = asked
    -- Only a fault of the graph leaves the package out; any other failure is passed on.
    rcases (source globs).answer with failure | graph
    · cases failure with
      | fault cause =>
        cases cause with
        | graph fault => exact context.skip_apply_eq package fault asked
        | _ => exact Prod.ext rfl (Session.extend_nil asked).symm
      | _ => exact Prod.ext rfl (Session.extend_nil asked).symm
    · exact (context.asking arguments source).compare_apply_eq package graph asked

/-- The audits of packages are their courses. -/
theorem map_auditPackage_asking (packages : List Package) :
    packages.map (context.asking arguments source).auditPackage =
      (packages.map (context.course arguments source)).map Task.act := by
  rw [List.map_map]
  exact List.map_congr_left fun package _ => context.auditPackage_asking arguments source package

/-- An audit begins with its notice. -/
theorem announce_apply (session : Session) :
    announce session = (.ok (), session.extend [.logged auditNotice]) := rfl

/-- Findings are followed by what is logged at the end. -/
theorem conclude_of_ok (found : List (List Diagnostic)) (session : Session) :
    conclude (.ok found) session = (.ok found.flatten, session.extend (closing found.flatten)) := by
  rw [conclude, bind_of_ok (Action.ofExcept_apply _ session), closing]
  split
  · exact bind_of_ok (Action.log_apply _ _ session)
  · rw [Session.extend_nil]
    rfl

/-- A failure is not followed by anything. -/
theorem conclude_of_error (failure : Failure) (session : Session) :
    conclude (.error failure) session = (.error failure, session) :=
  bind_of_error (Action.ofExcept_apply _ session)

/-- Nothing but the list is changed at the end. -/
theorem conclude_fst (audits : Except Failure (List (List Diagnostic))) (session : Session) :
    (conclude audits session).1 = audits.map List.flatten := by
  cases audits with
  | error failure =>
    rw [conclude_of_error]
    rfl
  | ok found =>
    rw [conclude_of_ok]
    rfl

variable {context}

/-- An audit announces itself, audits its packages and concludes. -/
theorem audit_eq_conclude {workers : Value} {scope : Scope} {list : List Package}
    (hworkers : checkWorkers workers = .ok ()) (hscope : context.packagesIn scope = .ok list)
    (session : Session) :
    context.audit workers scope session =
      conclude (context.auditPackages workers list (announce session).2).1
        (context.auditPackages workers list (announce session).2).2 := by
  rw [audit, hworkers, hscope, bind_of_ok (Action.ofExcept_apply (.ok ()) session),
    bind_of_ok (Action.ofExcept_apply (.ok list) session), bind_of_ok (Action.log_apply ..),
    announce_apply, auditNotice]
  -- What is concluded only depends on what the audits of the packages come to.
  generalize session.extend [_] = started
  rcases haudits : context.auditPackages workers list started with ⟨failure | found, middle⟩
  · rw [bind_of_error haudits, conclude_of_error]
  · rw [bind_of_ok haudits, conclude, bind_of_ok (Action.ofExcept_apply _ middle)]

/-- With one worker the courses of the packages are taken in turn. -/
theorem audit_asking_one {scope : Scope} {list : List Package}
    (hscope : context.packagesIn scope = .ok list) (session : Session) :
    (context.asking arguments source).audit (.int 1) scope session =
      conclude (Task.inTurn (list.map (context.course arguments source))).outcome
        (session.extend (.logged auditNotice ::
          (Task.inTurn (list.map (context.course arguments source))).events)) := by
  -- The packages of a scope have nothing to do with where the import graphs come from.
  have hscope' : (context.asking arguments source).packagesIn scope = .ok list := by
    rw [← hscope]
    cases scope <;> rfl
  have hone : (isOne (.int 1) || decide (list.length < 2)) = true := rfl
  rw [audit_eq_conclude rfl hscope', auditPackages, if_pos hone, context.map_auditPackage_asking,
    Task.inTurn_map_act, Task.act_apply, announce_apply, Session.extend_extend]
  rfl

/-- Three packages in an order, two of which declare to depend on an external one. -/
def trio : AuditContext where
  packages := [
    .make "app" "app" ["lib-a"] false, .make "core" "core" [] false,
    .make "web" "web" ["lib-a"] false]
  declaredOf name := .ok (if name = "core" then [] else ["lib-a"])
  graphOf _ := pure (.ofModules [])
  globsFor package := .ok [package.glob]
  installCommand := defaultInstallCommand

/-- A source that has no module for any package, and no import graph for `core`. -/
def coreless (globs : NameSet) : Reply ImportGraph where
  records := []
  answer :=
    if globs = ["core/src/**/*.purs"] then
      .error (.fault (.graph { cause := .timedOut "purs" "30" }))
    else .ok (.ofModules [])

end AuditContext

end BuildAudit
