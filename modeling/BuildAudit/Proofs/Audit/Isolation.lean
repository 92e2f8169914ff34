import BuildAudit.Proofs.Audit.Source
import BuildAudit.Proofs.Usage
import Mathlib.Data.List.Nodup

/-!
# Packages are audited apart from each other

With one worker, and import graphs that only depend on the patterns, an audit of all packages is the
audits of the single packages put together (`auditsApart`). So a package whose import graph cannot
be had is left out with a warning, and the diagnostics about the other packages stay the same.
-/

namespace BuildAudit

/-- The warnings of a session. -/
def Session.warnings (session : Session) : List LogRecord :=
  session.records.filter (·.level == .warning)

/-- The warnings of a session are those before and those among the further events. -/
theorem Session.warnings_extend (session : Session) (events : List Event) :
    (session.extend events).warnings =
      session.warnings ++ (events.filterMap Event.record?).filter (·.level == .warning) := by
  simp only [warnings, records, extend, List.filterMap_append, List.filter_append]

namespace AuditContext

variable (context : AuditContext) (arguments : List String) (source : NameSet → Reply ImportGraph)

/-- An audit by one worker with import graphs from a source. -/
def auditFrom (scope : Scope) : Action (List Diagnostic) :=
  (context.asking arguments source).audit (.int 1) scope

/-- The warnings that come from the audit of a package: those of the source, and one if the package
is left out. -/
def warnings (package : Package) : List LogRecord :=
  match context.globsFor package with
  | .error _ => []
  | .ok globs =>
    (source globs).records.filter (·.level == .warning) ++
      match (source globs).answer with
      | .error (.fault (.graph fault)) => [skipRecord package fault.cause]
      | _ => []

/-- Every package is audited as if there were no other. -/
structure AuditsApart (session : Session) : Prop where
  /-- An audit of all packages has what the audits of the single packages have, in order. -/
  concatenates : ∀ sessions : Package → Session,
    (context.auditFrom arguments source .all session).1 =
      (context.packages.mapM fun package =>
        (context.auditFrom arguments source (.single package.name) (sessions package)).1).map
          List.flatten
  /-- There is something to report unless something else fails than an import graph. -/
  returns : (∀ package ∈ context.packages, (∃ globs, context.globsFor package = .ok globs) ∧
      ∃ declared, context.declaredOf package.name = .ok declared) →
    ∃ found, (context.auditFrom arguments source .all session).1 = .ok found
  /-- A package whose import graph cannot be had is left out with one warning, which names it. -/
  skips : ∀ package ∈ context.packages, ∀ globs fault, context.globsFor package = .ok globs →
    (source globs).answer = .error (.fault (.graph fault)) →
      context.auditFrom arguments source (.single package.name) session =
        (.ok [], session.extend (.logged auditNotice :: askEvents arguments source globs ++
          [.logged (skipRecord package fault.cause), .logged cleanRecord]))
  /-- No other warnings are logged about all packages, and they come in order. -/
  warns : ∀ found, (context.auditFrom arguments source .all session).1 = .ok found →
    (context.auditFrom arguments source .all session).2.warnings =
      session.warnings ++ context.packages.flatMap (context.warnings source)
  /-- The diagnostics about a package among those about all packages are those of its own audit. -/
  parts : ∀ found, (context.auditFrom arguments source .all session).1 = .ok found →
    ∀ package ∈ context.packages,
      (context.auditFrom arguments source (.single package.name) session).1 =
        .ok (found.filter (·.package == package.name))
  /-- Another answer about the patterns of some packages makes no difference to a package that has
  patterns of its own. -/
  isolates : ∀ (source' : NameSet → Reply ImportGraph) (changed : List String),
    (∀ globs, (∀ other ∈ context.packages, other.name ∈ changed →
      context.globsFor other ≠ .ok globs) → (source' globs).answer = (source globs).answer) →
    ∀ package ∈ context.packages, (∀ other ∈ context.packages, other.name ∈ changed →
      context.globsFor other ≠ context.globsFor package) →
        (context.auditFrom arguments source' (.single package.name) session).1 =
          (context.auditFrom arguments source (.single package.name) session).1 ∧
        ∀ found found', (context.auditFrom arguments source .all session).1 = .ok found →
          (context.auditFrom arguments source' .all session).1 = .ok found' →
            found'.filter (·.package == package.name) = found.filter (·.package == package.name)
  /-- Each package takes one call, with its patterns. -/
  asks : ∀ found, (context.auditFrom arguments source .all session).1 = .ok found →
    ∃ globs : List NameSet, context.packages.map context.globsFor = globs.map .ok ∧
      (context.auditFrom arguments source .all session).2.calls =
        session.calls ++ globs.map fun globs => .graph globs arguments
  /-- The audit of a single package takes one call, with its patterns. -/
  asksOnce : ∀ package ∈ context.packages, ∀ globs, context.globsFor package = .ok globs →
    (context.auditFrom arguments source (.single package.name) session).2.calls =
      session.calls ++ [.graph globs arguments]
  /-- A name that no package has is refused before anything happens. -/
  refuses : ∀ name, (∀ package ∈ context.packages, package.name ≠ canonicalName name) →
    context.auditFrom arguments source (.single name) session =
      (.error (.fault (.config
        (.unknownPackage (canonicalName name) (context.packages.map (·.name))))), session)

variable {context arguments source}

/-- The name of a package leads to that package if no other has the name. -/
theorem packagesIn_single (hnames : (context.packages.map (·.name)).Nodup) {package : Package}
    (hpackage : package ∈ context.packages) :
    context.packagesIn (.single package.name) = .ok [package] := by
  rw [packagesIn, package.name_canonical, find?_name_eq_some hnames hpackage]

/-- A name that no package has is refused, in its canonical form. -/
theorem packagesIn_unknown {name : String}
    (h : ∀ package ∈ context.packages, package.name ≠ canonicalName name) :
    context.packagesIn (.single name) = .error (.fault (.config
      (.unknownPackage (canonicalName name) (context.packages.map (·.name))))) := by
  have hnone : context.packages.find? (·.name == canonicalName name) = none := by
    rw [List.find?_eq_none]
    intro package hpackage
    rw [beq_iff_eq]
    exact h package hpackage
  rw [packagesIn, hnone]

/-- The outcome of an audit is that of the courses of its packages. -/
theorem auditFrom_fst {scope : Scope} {list : List Package}
    (hscope : context.packagesIn scope = .ok list) (session : Session) :
    (context.auditFrom arguments source scope session).1 =
      (list.mapM fun package => (context.course arguments source package).outcome).map
        List.flatten := by
  rw [auditFrom, audit_asking_one arguments source hscope, conclude_fst, Task.outcome_inTurn,
    List.mapM_map]
  rfl

/-- An audit that comes to its end lets the courses of its packages happen. -/
theorem auditFrom_of_ok {scope : Scope} {list : List Package}
    (hscope : context.packagesIn scope = .ok list) {session : Session} {found : List Diagnostic}
    (h : (context.auditFrom arguments source scope session).1 = .ok found) :
    context.auditFrom arguments source scope session = (.ok found, session.extend
      (.logged auditNotice :: list.flatMap (fun package =>
        (context.course arguments source package).events) ++ closing found)) := by
  rw [auditFrom, audit_asking_one arguments source hscope] at h ⊢
  -- A failure of one course is the outcome of the audit, so here all of them have come to an end.
  rcases houtcome : (list.map (context.course arguments source)).mapM Task.outcome with
    failure | audits
  · rw [conclude_fst, Task.outcome_inTurn, houtcome] at h
    cases h
  · rw [conclude_fst, Task.outcome_inTurn, houtcome] at h
    cases h
    rw [Task.outcome_inTurn, houtcome, conclude_of_ok, Task.events_inTurn houtcome,
      Session.extend_extend, List.flatMap_map]

/-- An audit makes the calls that its packages take in turn, however it ends. -/
theorem calls_auditFrom {scope : Scope} {list : List Package}
    (hscope : context.packagesIn scope = .ok list) (session : Session) :
    (context.auditFrom arguments source scope session).2.calls = session.calls ++
      (Task.inTurn (list.map (context.course arguments source))).events.filterMap Event.call? := by
  -- Only a record may follow the audits of the packages.
  have hquiet (audits : Except Failure (List (List Diagnostic))) (session : Session) :
      (conclude audits session).2.calls = session.calls := by
    rcases audits with failure | audits
    · rw [conclude_of_error]
    · rw [conclude_of_ok, closing]
      split
      · exact (Session.CallsOnly.logged session [_]).calls_eq_of_quiet
      · rw [Session.extend_nil]
  rw [auditFrom, audit_asking_one arguments source hscope, hquiet, Session.calls_extend]
  rfl

/-- The outcome of the audit of a single package is that of its course. -/
theorem auditFrom_single_fst (hnames : (context.packages.map (·.name)).Nodup) {package : Package}
    (hpackage : package ∈ context.packages) (session : Session) :
    (context.auditFrom arguments source (.single package.name) session).1 =
      (context.course arguments source package).outcome := by
  rw [auditFrom_fst (packagesIn_single hnames hpackage), List.mapM_cons, List.mapM_nil]
  rcases (context.course arguments source package).outcome with failure | found
  · rfl
  · exact congrArg Except.ok List.flatten_singleton

/-- A course with an outcome has patterns. -/
theorem exists_globs_of_course {package : Package} {found : List Diagnostic}
    (h : (context.course arguments source package).outcome = .ok found) :
    ∃ globs, context.globsFor package = .ok globs := by
  rcases hglobs : context.globsFor package with failure | globs
  · rw [course, hglobs] at h
    cases h
  · exact ⟨globs, rfl⟩

/-- What is found in the course of a package is about that package. -/
theorem package_eq_of_course {package : Package} {found : List Diagnostic}
    (h : (context.course arguments source package).outcome = .ok found) :
    ∀ diagnostic ∈ found, diagnostic.package = package.name := by
  obtain ⟨globs, hglobs⟩ := exists_globs_of_course h
  rw [context.course_of_ok arguments source hglobs] at h
  dsimp only at h
  -- Only a graph with a declaration leads to findings; a fault of the graph leads to none.
  unfold appraisal at h
  split at h
  · split at h
    · cases h
    · cases h
      rw [ImportGraph.diagnostics_usage]
      exact fun diagnostic => package_eq_of_mem_findings
  · cases h
    exact fun _ hmem => absurd hmem List.not_mem_nil
  · cases h

/-- Nothing is called once the source has answered. -/
theorem filterMap_call?_appraisal (package : Package) (answer : Except Failure ImportGraph) :
    (context.appraisal package answer).events.filterMap Event.call? = [] := by
  unfold appraisal
  split
  · split <;> rfl
  · rfl
  · rfl

/-- The course of a package takes one call, with its patterns. -/
theorem filterMap_call?_course {package : Package} {globs : NameSet}
    (hglobs : context.globsFor package = .ok globs) :
    (context.course arguments source package).events.filterMap Event.call? =
      [.graph globs arguments] := by
  rw [context.course_of_ok arguments source hglobs, askEvents, List.filterMap_append,
    filterMap_call?_appraisal, List.append_nil, List.filterMap_cons]
  simp only [Event.call?, Session.filterMap_call?_logged]

/-- After the answer of the source there is a warning just if the package is left out. -/
theorem warnings_of_appraisal (package : Package) (answer : Except Failure ImportGraph) :
    ((context.appraisal package answer).events.filterMap Event.record?).filter
      (·.level == .warning) =
      match answer with
      | .error (.fault (.graph fault)) => [skipRecord package fault.cause]
      | _ => [] := by
  rcases answer with failure | graph
  · cases failure with
    | fault cause => cases cause <;> rfl
    | _ => rfl
  · rw [appraisal]
    rcases context.declaredOf package.name <;> rfl

/-- The course of a package logs the warnings about it. -/
theorem warnings_of_course (package : Package) :
    ((context.course arguments source package).events.filterMap Event.record?).filter
      (·.level == .warning) = context.warnings source package := by
  rcases hglobs : context.globsFor package with failure | globs
  · rw [course, warnings, hglobs]
    rfl
  · have hasked : (askEvents arguments source globs).filterMap Event.record? =
        (source globs).records := by
      rw [askEvents, List.filterMap_cons]
      simp only [Event.record?, List.filterMap_map]
      exact List.filterMap_some
    rw [context.course_of_ok arguments source hglobs, warnings, hglobs, List.filterMap_append,
      List.filter_append, hasked, warnings_of_appraisal]

/-- No warning belongs to the end of an audit. -/
theorem warnings_of_closing (found : List Diagnostic) :
    ((closing found).filterMap Event.record?).filter (·.level == .warning) = [] := by
  rw [closing]
  split <;> rfl

/-- Courses with outcomes have patterns, with which they take one call each. -/
theorem exists_globs_of_courses {list : List Package}
    (h : ∀ package ∈ list, ∃ found,
      (context.course arguments source package).outcome = .ok found) :
    ∃ globs : List NameSet, list.map context.globsFor = globs.map .ok ∧
      (list.flatMap fun package =>
        (context.course arguments source package).events).filterMap Event.call? =
          globs.map fun globs => .graph globs arguments := by
  induction list with
  | nil => exact ⟨[], rfl, rfl⟩
  | cons package rest ih =>
    obtain ⟨⟨found, hfound⟩, hrest⟩ := List.forall_mem_cons.1 h
    obtain ⟨globs, hglobs⟩ := exists_globs_of_course hfound
    obtain ⟨others, hothers, hcalls⟩ := ih hrest
    refine ⟨globs :: others, ?_, ?_⟩
    · rw [List.map_cons, List.map_cons, hglobs, hothers]
    · rw [List.flatMap_cons, List.filterMap_append, filterMap_call?_course hglobs, hcalls]
      rfl

/-- The outcome of a course only depends on the answer about the patterns of its package. -/
theorem outcome_course_congr {source' : NameSet → Reply ImportGraph} {package : Package}
    (h : ∀ globs, context.globsFor package = .ok globs →
      (source' globs).answer = (source globs).answer) :
    (context.course arguments source' package).outcome =
      (context.course arguments source package).outcome := by
  rcases hglobs : context.globsFor package with failure | globs
  · rw [course, course, hglobs]
  · rw [context.course_of_ok arguments source' hglobs, context.course_of_ok arguments source hglobs,
      h globs hglobs]

/-- A course has an outcome unless something else fails than the import graph. -/
theorem exists_outcome_course {package : Package} {globs declared : NameSet}
    (hglobs : context.globsFor package = .ok globs)
    (hdeclared : context.declaredOf package.name = .ok declared)
    (hfaults : ∀ failure, (source globs).answer = .error failure →
      ∃ fault, failure = .fault (.graph fault)) :
    ∃ found, (context.course arguments source package).outcome = .ok found := by
  rw [context.course_of_ok arguments source hglobs]
  rcases hanswer : (source globs).answer with failure | graph
  · obtain ⟨fault, rfl⟩ := hfaults failure hanswer
    exact ⟨[], rfl⟩
  · rw [appraisal, hdeclared]
    exact ⟨_, rfl⟩

variable (context arguments source) in
/-- What is found in the course of a package. -/
def yield (package : Package) : List Diagnostic :=
  (context.course arguments source package).outcome.toOption.getD []

/-- If something is found about all packages, then something is found about each of them, and it is
what is found in their courses. -/
theorem courses_of_auditFrom {session : Session} {found : List Diagnostic}
    (h : (context.auditFrom arguments source .all session).1 = .ok found) :
    found = context.packages.flatMap (context.yield arguments source) ∧
      ∀ package ∈ context.packages, (context.course arguments source package).outcome =
        .ok (context.yield arguments source package) := by
  rw [auditFrom_fst rfl] at h
  rcases haudits : context.packages.mapM fun package =>
      (context.course arguments source package).outcome with failure | audits
  · rw [haudits] at h
    cases h
  · rw [haudits] at h
    have houtcomes := mapM_eq_ok_iff.1 haudits
    -- Every outcome is one of those that have been put together, so none is a failure.
    have hyields : audits = context.packages.map (context.yield arguments source) := by
      have hresults := congrArg (List.map fun outcome => outcome.toOption.getD []) houtcomes
      rw [List.map_map, List.map_map] at hresults
      exact (List.map_id _).symm.trans hresults.symm
    refine ⟨?_, fun package hpackage => ?_⟩
    · rw [← Except.ok.inj h, hyields, List.flatMap_def]
    · have hmem : (context.course arguments source package).outcome ∈ audits.map .ok :=
        houtcomes ▸ List.mem_map_of_mem hpackage
      obtain ⟨result, -, hresult⟩ := List.mem_map.1 hmem
      rw [yield, ← hresult]
      rfl

/-- Of what is found about all packages, that about one of them is what is found in its course. -/
theorem filter_eq_yield (hnames : (context.packages.map (·.name)).Nodup) {session : Session}
    {found : List Diagnostic} (h : (context.auditFrom arguments source .all session).1 = .ok found)
    {package : Package} (hpackage : package ∈ context.packages) :
    found.filter (·.package == package.name) = context.yield arguments source package := by
  obtain ⟨rfl, hcourses⟩ := courses_of_auditFrom h
  rw [filter_flatMap_eq fun other hother => package_eq_of_course (hcourses other hother),
    filter_name_eq_singleton hnames hpackage, List.flatMap_singleton]

/-- With one worker every package is audited as if there were no other. -/
theorem auditsApart (context : AuditContext) (arguments : List String)
    (source : NameSet → Reply ImportGraph) (hnames : (context.packages.map (·.name)).Nodup)
    (hfaults : ∀ globs failure, (source globs).answer = .error failure →
      ∃ fault, failure = .fault (.graph fault)) (session : Session) :
    context.AuditsApart arguments source session := by
  have hparts {source : NameSet → Reply ImportGraph} {found : List Diagnostic}
      (hfound : (context.auditFrom arguments source .all session).1 = .ok found) :
      ∀ package ∈ context.packages,
        (context.auditFrom arguments source (.single package.name) session).1 =
          .ok (found.filter (·.package == package.name)) := by
    intro package hpackage
    rw [auditFrom_single_fst hnames hpackage, filter_eq_yield hnames hfound hpackage]
    exact (courses_of_auditFrom hfound).2 package hpackage
  refine ⟨?concatenates, ?returns, ?skips, ?warns, fun _ => hparts, ?isolates, ?asks, ?asksOnce,
    ?refuses⟩
  case concatenates =>
    intro sessions
    rw [auditFrom_fst rfl]
    congr 1
    exact mapM_congr_left fun package hpackage =>
      (auditFrom_single_fst hnames hpackage (sessions package)).symm
  case returns =>
    intro hreturns
    rw [auditFrom_fst rfl]
    rcases haudits : context.packages.mapM fun package =>
        (context.course arguments source package).outcome with failure | audits
    · -- A failure would be that of a package, whose course has an outcome.
      obtain ⟨before, package, after, hsplit, -, hfailed⟩ := exists_earliest_failure haudits
      obtain ⟨⟨globs, hglobs⟩, declared, hdeclared⟩ :=
        hreturns package (hsplit ▸ List.mem_append_right _ (.head _))
      obtain ⟨found, hfound⟩ := exists_outcome_course hglobs hdeclared (hfaults globs)
      rw [hfound] at hfailed
      cases hfailed
    · exact ⟨_, rfl⟩
  case skips =>
    intro package hpackage globs fault hglobs hanswer
    have hcourse : context.course arguments source package = {
        events := askEvents arguments source globs ++ [.logged (skipRecord package fault.cause)]
        outcome := .ok [] } := by
      rw [context.course_of_ok arguments source hglobs, hanswer]
      rfl
    have hfound : (context.auditFrom arguments source (.single package.name) session).1 =
        .ok [] := by
      rw [auditFrom_single_fst hnames hpackage, hcourse]
    rw [auditFrom_of_ok (packagesIn_single hnames hpackage) hfound, List.flatMap_singleton, hcourse]
    simp [closing]
  case warns =>
    intro found hfound
    have hnotice : ([Event.logged auditNotice].filterMap Event.record?).filter
        (·.level == .warning) = [] := rfl
    rw [auditFrom_of_ok rfl hfound, Session.warnings_extend, ← List.singleton_append,
      List.filterMap_append, List.filterMap_append, List.filter_append, List.filter_append,
      warnings_of_closing, hnotice, List.nil_append, List.append_nil, List.filterMap_flatMap,
      List.filter_flatMap]
    simp only [warnings_of_course]
  case isolates =>
    intro source' changed hanswers package hpackage hdiffers
    have hcourse : (context.course arguments source' package).outcome =
        (context.course arguments source package).outcome := by
      refine outcome_course_congr fun globs hglobs => hanswers globs fun other hother hchanged => ?_
      rw [← hglobs]
      exact hdiffers other hother hchanged
    have hsingle : (context.auditFrom arguments source' (.single package.name) session).1 =
        (context.auditFrom arguments source (.single package.name) session).1 := by
      rw [auditFrom_single_fst hnames hpackage, auditFrom_single_fst hnames hpackage, hcourse]
    refine ⟨hsingle, fun found found' hfound hfound' => ?_⟩
    -- Both reports have the diagnostics of the audit of the single package.
    rw [hparts hfound package hpackage, hparts hfound' package hpackage] at hsingle
    exact Except.ok.inj hsingle
  case asks =>
    intro found hfound
    obtain ⟨-, hcourses⟩ := courses_of_auditFrom hfound
    obtain ⟨globs, hglobs, hcalls⟩ := exists_globs_of_courses fun package hpackage =>
      ⟨_, hcourses package hpackage⟩
    -- None of the courses fails, so every one of them happens.
    have houtcomes : (context.packages.map (context.course arguments source)).mapM Task.outcome =
        .ok (context.packages.map (context.yield arguments source)) := by
      rw [List.mapM_map, mapM_eq_ok_iff, List.map_map]
      exact List.map_congr_left hcourses
    refine ⟨globs, hglobs, ?_⟩
    rw [calls_auditFrom rfl, Task.events_inTurn houtcomes, List.flatMap_map, hcalls]
  case asksOnce =>
    intro package hpackage globs hglobs
    rw [calls_auditFrom (packagesIn_single hnames hpackage), List.map_singleton,
      Task.events_inTurn_singleton, filterMap_call?_course hglobs]
  case refuses =>
    intro name hname
    have hscope : (context.asking arguments source).packagesIn (.single name) = _ :=
      packagesIn_unknown hname
    have hworkers : checkWorkers (.int 1) = .ok () := rfl
    rw [auditFrom, audit, hworkers, hscope, bind_of_ok (Action.ofExcept_apply (.ok ()) session)]
    exact bind_of_error (Action.ofExcept_apply _ session)

/-- Every package of three is audited as if there were no other, also with one that is left out. -/
theorem auditsApart_trio :
    (trio.packages.map (·.name)).Nodup ∧
      (trio.auditFrom [] coreless .all .bare).1.toOption.map (·.map (·.package)) =
        some ["app", "web"] ∧
      trio.AuditsApart [] coreless .bare := by
  have hnames : (trio.packages.map (·.name)).Nodup := by decide +kernel
  have hfaults (globs : NameSet) (failure : Failure)
      (h : (coreless globs).answer = .error failure) :
      ∃ fault, failure = .fault (.graph fault) := by
    rw [coreless] at h
    split at h
    · exact ⟨_, (Except.error.inj h).symm⟩
    · cases h
  exact ⟨hnames, by decide +kernel, auditsApart trio [] coreless hnames hfaults .bare⟩

end AuditContext

end BuildAudit
