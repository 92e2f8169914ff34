import BuildAudit.Proofs.Audit.Run
import BuildAudit.Proofs.Build.Info
import BuildAudit.Proofs.Build.Pipeline
import BuildAudit.Proofs.Build.Written

/-!
# What a build does, and when

A build looks up the selected package, brings the module with the build information up to date, runs
its pipeline and audits what has been built. `prepare_cases` tells how far it comes before the
pipeline runs. The arguments are checked twice, once to decide whether anything is written and once
in the pipeline; both checks agree, so something is written just if the pipeline compiles.

`BuildEffects` says which files a build may change and which calls it makes in which order, and
`runBuild_effects` that every build keeps to it.
-/

namespace BuildAudit

/-- Every call of a tool returns or ends with the fault of that tool. -/
structure Tools.EndsWithOwnFaults (tools : Tools) : Prop where
  /-- A compilation that does not return ends with a fault of the compiler. -/
  compile : ∀ past globs arguments failure,
    (tools.compile past globs arguments).answer = .error failure →
      ∃ reason exitCode? shown, failure = .fault (.build (.compile reason exitCode? shown))
  /-- A run of the backend that does not return ends with a fault of the backend. -/
  backend : ∀ past command arguments failure,
    (tools.backend past command arguments).answer = .error failure →
      ∃ shown reason exitCode?, failure = .fault (.build (.backend shown reason exitCode?))
  /-- A call for an import graph that does not return ends with a fault of the graph. -/
  graph : ∀ past globs arguments failure,
    (tools.graph past globs arguments).answer = .error failure →
      ∃ fault, failure = .fault (.graph fault)

/-- The fault of a compiler or a backend is a fault of the build. -/
theorem Tools.EndsWithOwnFaults.endsWithBuildFaults {tools : Tools}
    (h : tools.EndsWithOwnFaults) : tools.EndsWithBuildFaults where
  compile past globs arguments failure hanswer := by
    obtain ⟨_, _, _, rfl⟩ := h.compile past globs arguments failure hanswer
    exact ⟨_, rfl⟩
  backend past command arguments failure hanswer := by
    obtain ⟨_, _, _, rfl⟩ := h.backend past command arguments failure hanswer
    exact ⟨_, rfl⟩

variable (workspace : Workspace) (settings : Settings) (tools : Tools) (options : BuildOptions)
  (session : Session)

/-- The pipeline of a build after its run, or a fresh one if the build does not come to it. -/
def buildPipeline : Pipeline :=
  match prepare workspace settings options session with
  | (.ok globs, ready) =>
    (PipelineAction.run tools (buildRequest settings globs)
      { pipeline := .fresh, session := ready }).2.pipeline
  | (.error _, _) => .fresh

/-- The session after the module with the build information has been brought up to date, or the same
session if that is not asked for or the pipeline does not compile. -/
def informedSession : Session :=
  if options.writeInfo = true ∧
      .compiling ∈ (buildPipeline workspace settings tools options session).history then
    (writeBuildInfo workspace.root workspace.packageNames session).2
  else session

/-- What happens before the first call of a build. -/
structure Informs : Prop where
  /-- No tool is called. -/
  calls : (informedSession workspace settings tools options session).calls = session.calls
  /-- If that is asked for and the pipeline compiles, the module with the build information is
  brought up to date. -/
  written : options.writeInfo = true →
    .compiling ∈ (buildPipeline workspace settings tools options session).history →
      BringsUpToDate workspace.root workspace.packageNames session.files
        (informedSession workspace settings tools options session).files
  /-- Otherwise nothing happens. -/
  unwritten : ¬ (options.writeInfo = true ∧
      .compiling ∈ (buildPipeline workspace settings tools options session).history) →
    informedSession workspace settings tools options session = session

/-- What a build may do: `building` are the calls of its pipeline and `auditing` those of its audit,
and it comes to an outcome in a later session. -/
structure BuildEffects (building auditing : List ToolCall) (outcome : Except Failure BuildReport)
    (later : Session) : Prop where
  /-- An unknown package ends the build before anything happens. -/
  unknown : ∀ name, options.selected? = some name → workspace.Lacks name →
    outcome = .error (.fault (.config
      (.unknownPackage (canonicalName name) workspace.packageNames))) ∧ later = session
  /-- The module with the build information is brought up to date before the first call, just if
  that is asked for and the pipeline compiles. -/
  informs : Informs workspace settings tools options session
  /-- Apart from that module no file is written. -/
  calls : (informedSession workspace settings tools options session).CallsOnly
    (building ++ auditing) later
  /-- A reserved argument leaves all files as they are and calls no tool. -/
  refused : ∀ fault,
    Vetting settings.backend? settings.compilerArguments (.error (.fault (.build fault))) →
      session.CallsOnly [] later
  /-- The pipeline asks for no import graph. -/
  builds : ∀ call ∈ building, call.isGraph = false
  /-- The audit asks for nothing else, and only after a successful pipeline. -/
  audits : ∀ call ∈ auditing, call.isGraph = true ∧
    (buildPipeline workspace settings tools options session).stage = .succeeded
  /-- The result that is reported is that of the pipeline. -/
  reports : ∀ report, outcome = .ok report →
    (buildPipeline workspace settings tools options session).result? = some report.result
  /-- Nothing is audited after a failure. -/
  failed : ∀ report, outcome = .ok report → report.result.succeeded = false →
    report.diagnostics = [] ∧ report.audited = []
  /-- After a success there is one call for each audited package, with the arguments of the
  settings; with one worker they are made in the order of the packages. -/
  succeeded : ∀ report, outcome = .ok report → report.result.succeeded = true →
    ∃ (packages : List Package) (arguments : List String),
      packages.Sublist workspace.packages ∧
      settings.compilerArguments = arguments.map .string ∧
      report.audited = packages.map (·.name) ∧
      auditing.Perm (packages.map fun package =>
        .graph (workspace.auditGlobs package) arguments) ∧
      (AuditContext.isOne settings.jobs = true →
        auditing = packages.map fun package => .graph (workspace.auditGlobs package) arguments)
  /-- There is a report unless a package is unknown, an argument is no text, or the number of
  workers is not allowed. -/
  returns : (∀ name, options.selected? = some name → ¬ workspace.Lacks name) →
    (∃ arguments : List String, settings.compilerArguments = arguments.map .string) →
    AuditContext.checkWorkers settings.jobs = .ok () → ∃ report, outcome = .ok report

/-- The patterns to compile can be selected unless a package is unknown, and at most a record is
logged. -/
theorem selectGlobs_apply {selected? : Option String}
    (hselected : ∀ name, selected? = some name → ¬ workspace.Lacks name) (dependenciesOnly : Bool)
    (session : Session) :
    ∃ globs later, session.CallsOnly [] later ∧
      selectGlobs workspace selected? dependenciesOnly session = (.ok globs, later) := by
  obtain ⟨globs, hglobs⟩ := workspace.exists_buildGlobs hselected dependenciesOnly
  have hchosen (session : Session) :
      Action.ofConfig (workspace.buildGlobs selected? dependenciesOnly) session =
        (.ok globs, session) := by
    rw [hglobs]
    rfl
  rw [selectGlobs]
  split
  · rw [bind_of_ok (Action.log_apply _ _ session)]
    exact ⟨globs, _, .logged session [_], hchosen _⟩
  · exact ⟨globs, session, .refl session, hchosen session⟩

/-- An unknown package is reported before anything happens. -/
theorem prepare_of_lacks {name : String} (hselected : options.selected? = some name)
    (hlacks : workspace.Lacks name) :
    prepare workspace settings options session =
      (.error (.fault (.config (.unknownPackage (canonicalName name) workspace.packageNames))),
        session) := by
  have hlookup : Action.ofConfig (workspace.packageOf name) session =
      (.error (.fault (.config (.unknownPackage (canonicalName name) workspace.packageNames))),
        session) := by
    rw [workspace.packageOf_of_lacks hlacks]
    rfl
  rw [prepare, hselected]
  exact bind_of_error hlookup

/-- Without an unknown package, what is left is to bring the module with the build information up to
date and to select the patterns. -/
theorem prepare_of_known
    (hselected : ∀ name, options.selected? = some name → ¬ workspace.Lacks name) :
    prepare workspace settings options session =
      (if options.writeInfo then do
          if ← Action.ofExcept (flagsAccepted settings) then
            let _ ← writeBuildInfo workspace.root workspace.packageNames
          selectGlobs workspace options.selected? options.dependenciesOnly
        else selectGlobs workspace options.selected? options.dependenciesOnly) session := by
  rw [prepare]
  cases hname : options.selected? with
  | none => rfl
  | some name =>
    obtain ⟨package, hpackage, hcanonical⟩ :=
      (workspace.lacks_or_exists name).resolve_left (hselected name hname)
    have hlookup : Action.ofConfig (workspace.packageOf name) session = (.ok package, session) := by
      rw [workspace.packageOf_of_name_eq hpackage hcanonical]
      rfl
    exact bind_of_ok hlookup

/-- A build comes to its pipeline unless a package is unknown or it is found before that an argument
is no text. On the way there it brings the module with the build information up to date, if that is
asked for and the arguments pass their check. -/
theorem prepare_cases
    (hinfo : options.writeInfo = true →
      ∃ path, (writeBuildInfo workspace.root workspace.packageNames session).1 = .ok path)
    (hselected : ∀ name, options.selected? = some name → ¬ workspace.Lacks name) :
    (prepare workspace settings options session = (.error .argumentKind, session) ∧
        checkArguments settings.backend? settings.compilerArguments = .error .argumentKind) ∨
      ∃ globs ready, prepare workspace settings options session = (.ok globs, ready) ∧
        ((options.writeInfo = true ∧
            (∃ arguments,
              checkArguments settings.backend? settings.compilerArguments = .ok arguments) ∧
            (writeBuildInfo workspace.root workspace.packageNames session).2.CallsOnly [] ready) ∨
          ¬ (options.writeInfo = true ∧
            ∃ arguments,
              checkArguments settings.backend? settings.compilerArguments = .ok arguments) ∧
            session.CallsOnly [] ready) := by
  rw [prepare_of_known workspace settings options session hselected]
  have hselect := selectGlobs_apply workspace hselected options.dependenciesOnly
  by_cases hwrite : options.writeInfo = true
  · rw [if_pos hwrite]
    have haccepted (accepted : Except Failure Bool) (h : flagsAccepted settings = accepted) :
        Action.ofExcept (flagsAccepted settings) session = (accepted, session) := by
      rw [h, Action.ofExcept_apply]
    -- The check is made before anything is written: a reserved argument leaves the writing out, and
    -- a value that is no text ends the build here.
    rcases hcheck : checkArguments settings.backend? settings.compilerArguments with
      failure | arguments
    · rcases (vetting_iff.2 hcheck).failure_cases with ⟨fault, rfl⟩ | rfl
      · obtain ⟨globs, ready, hready, hglobs⟩ := hselect session
        refine Or.inr ⟨globs, ready, ?_, Or.inr ⟨?_, hready⟩⟩
        · rw [bind_of_ok (haccepted (.ok false) (by rw [flagsAccepted, hcheck]))]
          exact hglobs
        · rintro ⟨-, _, h⟩
          cases h
      · refine Or.inl ⟨?_, rfl⟩
        exact bind_of_error (haccepted (.error .argumentKind) (by rw [flagsAccepted, hcheck]))
    · obtain ⟨path, hpath⟩ := hinfo hwrite
      have hwritten :
          writeBuildInfo workspace.root workspace.packageNames session = (.ok path, _) :=
        Prod.ext hpath rfl
      obtain ⟨globs, ready, hready, hglobs⟩ :=
        hselect (writeBuildInfo workspace.root workspace.packageNames session).2
      refine Or.inr ⟨globs, ready, ?_, Or.inl ⟨hwrite, ⟨arguments, rfl⟩, hready⟩⟩
      rw [bind_of_ok (haccepted (.ok true) (by rw [flagsAccepted, hcheck]))]
      exact (bind_of_ok hwritten).trans hglobs
  · rw [if_neg hwrite]
    obtain ⟨globs, ready, hready, hglobs⟩ := hselect session
    exact Or.inr ⟨globs, ready, hglobs, Or.inr ⟨fun h => hwrite h.1, hready⟩⟩

/-- What happens before the first call, if the module can be brought up to date. -/
theorem informs_of_writeBuildInfo
    (hinfo : options.writeInfo = true →
      ∃ path, (writeBuildInfo workspace.root workspace.packageNames session).1 = .ok path) :
    Informs workspace settings tools options session where
  calls := by
    rw [informedSession]
    split
    · exact keepsCalls_writeBuildInfo _ _ session
    · rfl
  written hwrite hcompiling := by
    obtain ⟨path, hpath⟩ := hinfo hwrite
    rw [informedSession, if_pos ⟨hwrite, hcompiling⟩]
    exact bringsUpToDate_of_writeBuildInfo (Prod.ext hpath rfl)
  unwritten hnot := by rw [informedSession, if_neg hnot]

/-- A value that is no text is refused only in lists that do not consist of texts. -/
theorem checkArguments_texts_ne {backend? : Option Backend} {arguments : List String} :
    checkArguments backend? (arguments.map .string) ≠ .error .argumentKind := by
  intro h
  have hvetting := vetting_iff.2 h
  generalize hvalues : arguments.map Value.string = values at hvetting
  cases hvetting with
  | @notText before value after _ hvalue =>
    have hmem : value ∈ arguments.map Value.string := by
      rw [hvalues]
      exact List.mem_append_right _ (.head _)
    obtain ⟨text, -, rfl⟩ := List.mem_map.1 hmem
    cases hvalue

namespace BuildEffects

variable {workspace settings tools options session}

/-- A build that does not come to its pipeline has done nothing. -/
theorem of_prepare_error {failure : Failure}
    (hinforms : Informs workspace settings tools options session)
    (hprepare : prepare workspace settings options session = (.error failure, session))
    (hunknown : ∀ name, options.selected? = some name → workspace.Lacks name →
      failure = .fault (.config (.unknownPackage (canonicalName name) workspace.packageNames)))
    (hknown : (∀ name, options.selected? = some name → ¬ workspace.Lacks name) →
      checkArguments settings.backend? settings.compilerArguments = .error .argumentKind) :
    BuildEffects workspace settings tools options session [] []
      (runBuild workspace settings tools options session).1
      (runBuild workspace settings tools options session).2 := by
  have hrun : runBuild workspace settings tools options session = (.error failure, session) := by
    rw [runBuild]
    exact bind_of_error hprepare
  -- The pipeline is still fresh, so the module with the build information was not asked for.
  have hpipeline : buildPipeline workspace settings tools options session = .fresh := by
    rw [buildPipeline, hprepare]
  have hinformed : informedSession workspace settings tools options session = session := by
    refine hinforms.unwritten ?_
    rw [hpipeline]
    rintro ⟨-, h⟩
    cases h with
    | tail _ h => cases h
  rw [hrun]
  exact {
    unknown := fun name hname hlacks => ⟨by rw [hunknown name hname hlacks], rfl⟩
    informs := hinforms
    calls := by rw [hinformed]; exact .refl session
    refused := fun _ _ => .refl session
    builds := fun _ h => absurd h List.not_mem_nil
    audits := fun _ h => absurd h List.not_mem_nil
    reports := fun _ h => by cases h
    failed := fun _ h => by cases h
    succeeded := fun _ h => by cases h
    -- With a known package only an argument that is no text stops a build here, and all are texts.
    returns := by
      rintro hselected ⟨arguments, harguments⟩ -
      have hkind := hknown hselected
      rw [harguments] at hkind
      exact absurd hkind checkArguments_texts_ne }

end BuildEffects

/-- A build that comes to its pipeline makes the first run of it, once the module with the build
information is up to date. -/
theorem exists_firstRun (hends : tools.EndsWithBuildFaults)
    (hinfo : options.writeInfo = true →
      ∃ path, (writeBuildInfo workspace.root workspace.packageNames session).1 = .ok path)
    (hselected : ∀ name, options.selected? = some name → ¬ workspace.Lacks name)
    {globs : NameSet} {ready : Session}
    (hprepare : prepare workspace settings options session = (.ok globs, ready)) :
    ∃ ended made middle,
      FirstRun tools session.calls (buildRequest settings globs) ended made
        (buildPipeline workspace settings tools options session) ∧
      (informedSession workspace settings tools options session).CallsOnly made middle ∧
      buildOnce tools (buildRequest settings globs) ready = (ended, middle) := by
  obtain ⟨ended, made, pipeline, middle, hfirst, hmade, hrun⟩ :=
    FirstRun.of_run hends (buildRequest settings globs) ready
  have hpipeline : buildPipeline workspace settings tools options session = pipeline := by
    rw [buildPipeline, hprepare]
    dsimp only
    rw [hrun]
  have hcompiling := hfirst.compiling_mem_iff
  rw [← hpipeline] at hcompiling hfirst
  -- The check before the writing and the one in the pipeline are the same function of the settings,
  -- so the two conditions on the writing agree.
  have hready : (informedSession workspace settings tools options session).CallsOnly [] ready := by
    rcases prepare_cases workspace settings options session hinfo hselected with
      ⟨herror, -⟩ | ⟨globs', ready', hready', hcases⟩
    · rw [hprepare] at herror
      cases herror
    · rw [hprepare] at hready'
      cases hready'
      rw [informedSession]
      rcases hcases with ⟨hwrite, hpassed, hready⟩ | ⟨hnot, hready⟩
      · rwa [if_pos ⟨hwrite, hcompiling.2 hpassed⟩]
      · rwa [if_neg fun h => hnot ⟨h.1, hcompiling.1 h.2⟩]
  have hcalls : ready.calls = session.calls := by
    rw [hready.calls_eq_of_quiet,
      (informs_of_writeBuildInfo workspace settings tools options session hinfo).calls]
  rw [hcalls] at hfirst
  refine ⟨ended, made, middle, hfirst, hready.trans hmade, ?_⟩
  rw [buildOnce, hrun]

namespace BuildEffects

variable {workspace settings tools options session}

/-- A build whose pipeline has not succeeded ends with it. -/
theorem of_stopped {outcome : Except Failure BuildReport} {made : List ToolCall} {middle : Session}
    (hselected : ∀ name, options.selected? = some name → ¬ workspace.Lacks name)
    (hinforms : Informs workspace settings tools options session)
    (hmade : (informedSession workspace settings tools options session).CallsOnly made middle)
    (hbuilds : ∀ call ∈ made, call.isGraph = false)
    (hrefused : ∀ fault,
      Vetting settings.backend? settings.compilerArguments (.error (.fault (.build fault))) →
        session.CallsOnly [] middle)
    (houtcome : (outcome = .error .argumentKind ∧
        checkArguments settings.backend? settings.compilerArguments = .error .argumentKind) ∨
      ∃ result, outcome = .ok { result } ∧ result.succeeded = false ∧
        (buildPipeline workspace settings tools options session).result? = some result) :
    BuildEffects workspace settings tools options session made [] outcome middle where
  unknown name hname hlacks := absurd hlacks (hselected name hname)
  informs := hinforms
  calls := by rwa [List.append_nil]
  refused := hrefused
  builds := hbuilds
  audits _ h := absurd h List.not_mem_nil
  reports report hreport := by
    rcases houtcome with ⟨rfl, -⟩ | ⟨result, rfl, -, hresult⟩
    · cases hreport
    · cases hreport
      exact hresult
  failed report hreport _ := by
    rcases houtcome with ⟨rfl, -⟩ | ⟨result, rfl, -⟩
    · cases hreport
    · cases hreport
      exact ⟨rfl, rfl⟩
  succeeded report hreport hsucceeded := by
    rcases houtcome with ⟨rfl, -⟩ | ⟨result, rfl, hnot, -⟩
    · cases hreport
    · cases hreport
      rw [hnot] at hsucceeded
      cases hsucceeded
  returns := by
    rintro - ⟨arguments, harguments⟩ -
    rcases houtcome with ⟨-, hkind⟩ | ⟨result, rfl, -⟩
    · rw [harguments] at hkind
      exact absurd hkind checkArguments_texts_ne
    · exact ⟨_, rfl⟩

/-- A build whose pipeline has succeeded goes on with the audit. -/
theorem of_succeeded {outcome : Except Failure BuildReport} {made : List ToolCall}
    {middle later : Session} {arguments : List String}
    (hgraph : ∀ past globs arguments failure,
      (tools.graph past globs arguments).answer = .error failure →
        ∃ fault, failure = .fault (.graph fault))
    (hselected : ∀ name, options.selected? = some name → ¬ workspace.Lacks name)
    (hinforms : Informs workspace settings tools options session)
    (hmade : (informedSession workspace settings tools options session).CallsOnly made middle)
    (hbuilds : ∀ call ∈ made, call.isGraph = false)
    (harguments : settings.compilerArguments = arguments.map .string)
    (hpassed : checkArguments settings.backend? settings.compilerArguments = .ok arguments)
    (hresult : (buildPipeline workspace settings tools options session).result? =
      some { stage := .succeeded, fault? := none })
    (hstage : (buildPipeline workspace settings tools options session).stage = .succeeded)
    (haudit : auditAfter workspace settings tools options.selected?
      { stage := .succeeded, fault? := none } middle = (outcome, later)) :
    ∃ auditing, BuildEffects workspace settings tools options session made auditing outcome
      later := by
  -- The arguments have passed, so nothing has to be shown for reserved ones.
  have hrefused : ∀ fault,
      Vetting settings.backend? settings.compilerArguments (.error (.fault (.build fault))) →
        session.CallsOnly [] later := by
    intro fault hvetting
    rw [vetting_iff, hpassed] at hvetting
    cases hvetting
  have htexts : settings.textArguments = arguments := by
    rw [Settings.textArguments, harguments, List.filterMap_map]
    exact List.filterMap_some
  -- The audit ends with a report, or the number of workers stops it before its first call.
  rcases auditAfter_cases workspace settings tools hgraph hselected
      { stage := .succeeded, fault? := none } middle with
    ⟨report, last, hreport⟩ | ⟨failure, hworkers, herror⟩
  · rw [hreport] at haudit
    cases haudit
    obtain ⟨packages, found, hsublist, haudited, -, rfl⟩ :=
      auditAfter_eq_ok workspace settings tools hreport
    refine ⟨packages.map (graphCall workspace settings), ?_⟩
    exact {
      unknown := fun name hname hlacks => absurd hlacks (hselected name hname)
      informs := hinforms
      calls := hmade.trans haudited
      refused := hrefused
      builds := hbuilds
      audits := by
        intro call hcall
        obtain ⟨package, -, rfl⟩ := List.mem_map.1 hcall
        exact ⟨rfl, hstage⟩
      reports := fun _ h => by cases h; exact hresult
      failed := fun _ h hfailed => by cases h; cases hfailed
      succeeded := by
        rintro _ ⟨⟩ -
        have hcalls : packages.map (graphCall workspace settings) =
            packages.map fun package => .graph (workspace.auditGlobs package) arguments := by
          rw [← htexts]
          rfl
        exact ⟨packages, arguments, hsublist, harguments, rfl, by rw [hcalls], fun _ => hcalls⟩
      returns := fun _ _ _ => ⟨_, rfl⟩ }
  · rw [herror] at haudit
    cases haudit
    exact ⟨[], {
      unknown := fun name hname hlacks => absurd hlacks (hselected name hname)
      informs := hinforms
      calls := by rwa [List.append_nil]
      refused := hrefused
      builds := hbuilds
      audits := fun _ h => absurd h List.not_mem_nil
      reports := fun _ h => by cases h
      failed := fun _ h => by cases h
      succeeded := fun _ h => by cases h
      returns := by
        rintro - - hallowed
        rw [hworkers] at hallowed
        cases hallowed }⟩

end BuildEffects

/-- A build that comes to its pipeline keeps to what a build may do. -/
theorem exists_effects_of_prepared (hends : tools.EndsWithOwnFaults)
    (hinfo : options.writeInfo = true →
      ∃ path, (writeBuildInfo workspace.root workspace.packageNames session).1 = .ok path)
    (hselected : ∀ name, options.selected? = some name → ¬ workspace.Lacks name)
    {globs : NameSet} {ready : Session}
    (hprepare : prepare workspace settings options session = (.ok globs, ready)) :
    ∃ building auditing,
      BuildEffects workspace settings tools options session building auditing
        (runBuild workspace settings tools options session).1
        (runBuild workspace settings tools options session).2 := by
  have hinforms := informs_of_writeBuildInfo workspace settings tools options session hinfo
  obtain ⟨ended, made, middle, hfirst, hmade, hbuild⟩ :=
    exists_firstRun workspace settings tools options session hends.endsWithBuildFaults hinfo
      hselected hprepare
  have hbuilds : ∀ call ∈ made, call.isGraph = false := fun _ => hfirst.isGraph_of_mem
  have hfailed (fault : BuildFault) :
      ¬ ({ stage := .failed, fault? := some fault } : BuildResult).succeeded = true :=
    Bool.false_ne_true
  -- Nothing is written for arguments that are refused.
  have hquiet : ∀ fault, Vetting settings.backend? settings.compilerArguments
      (.error (.fault (.build fault))) →
        informedSession workspace settings tools options session = session := by
    intro fault hvetting
    refine hinforms.unwritten ?_
    rintro ⟨-, hcompiling⟩
    obtain ⟨arguments, harguments⟩ := hfirst.compiling_mem_iff.1 hcompiling
    cases (vetting_iff.1 hvetting).symm.trans harguments
  rw [runBuild, bind_of_ok hprepare]
  -- The pipeline is a term of its own, which `cases` on its first run could not replace.
  generalize hpipeline : buildPipeline workspace settings tools options session = pipeline
    at hfirst
  cases hfirst with
  | refused hvetting =>
    rw [bind_of_ok hbuild, if_neg (hfailed _)]
    refine ⟨[], [], .of_stopped hselected hinforms hmade hbuilds ?_
      (Or.inr ⟨_, rfl, rfl, by rw [hpipeline]⟩)⟩
    intro fault hfault
    rwa [hquiet fault hfault] at hmade
  | notText hvetting =>
    rw [bind_of_error hbuild]
    refine ⟨[], [], .of_stopped hselected hinforms hmade hbuilds ?_
      (Or.inl ⟨rfl, vetting_iff.1 hvetting⟩)⟩
    intro fault hfault
    rwa [hquiet fault hfault] at hmade
  | @followed arguments made fault? stage hvetting hmakes hstage =>
    have hpassed := vetting_iff.1 hvetting
    rw [bind_of_ok hbuild]
    cases fault? with
    | none =>
      rw [if_pos rfl] at hstage
      subst hstage
      obtain ⟨auditing, heffects⟩ :=
        BuildEffects.of_succeeded hends.graph hselected hinforms hmade hbuilds hvetting.eq_texts
          hpassed (by rw [hpipeline]) (by rw [hpipeline]) rfl
      exact ⟨made, auditing, heffects⟩
    | some fault =>
      rw [if_neg (Option.some_ne_none fault)] at hstage
      subst hstage
      rw [if_neg (hfailed _)]
      refine ⟨made, [], .of_stopped hselected hinforms hmade hbuilds ?_
        (Or.inr ⟨_, rfl, rfl, by rw [hpipeline]⟩)⟩
      intro other hother
      cases (vetting_iff.1 hother).symm.trans hpassed

/-- Every build keeps to what a build may do, if the tools end only with their own faults and the
module with the build information can be brought up to date. -/
theorem runBuild_effects (hends : tools.EndsWithOwnFaults)
    (hinfo : options.writeInfo = true →
      ∃ path, (writeBuildInfo workspace.root workspace.packageNames session).1 = .ok path) :
    ∃ building auditing,
      BuildEffects workspace settings tools options session building auditing
        (runBuild workspace settings tools options session).1
        (runBuild workspace settings tools options session).2 := by
  have hinforms := informs_of_writeBuildInfo workspace settings tools options session hinfo
  by_cases hselected : ∀ name, options.selected? = some name → ¬ workspace.Lacks name
  · rcases prepare_cases workspace settings options session hinfo hselected with
      ⟨hprepare, hkind⟩ | ⟨globs, ready, hprepare, -⟩
    · exact ⟨[], [], .of_prepare_error hinforms hprepare
        (fun name hname hlacks => absurd hlacks (hselected name hname)) fun _ => hkind⟩
    · exact exists_effects_of_prepared workspace settings tools options session hends hinfo
        hselected hprepare
  · obtain ⟨name, hname, hlacks⟩ :
        ∃ name, options.selected? = some name ∧ workspace.Lacks name := by
      by_contra hnone
      exact hselected fun name hname hlacks => hnone ⟨name, hname, hlacks⟩
    refine ⟨[], [], .of_prepare_error hinforms
      (prepare_of_lacks workspace settings options session hname hlacks) ?_ ?_⟩
    · intro other hother _
      cases hname.symm.trans hother
      rfl
    · exact fun h => absurd hlacks (h name hname)

/-- Tools that build everything and give no import graph. -/
def Tools.graphless : Tools where
  compile _ _ _ := { records := [], answer := .ok () }
  graph _ _ _ := {
    records := []
    answer := .error (.fault (.graph { cause := .notRun "purs" "no such file" })) }
  backend _ _ _ := { records := [], answer := .ok () }

/-- A build without import graphs writes the module with the build information and keeps to what a
build may do. -/
theorem runBuild_effects_graphless :
    Tools.graphless.EndsWithOwnFaults ∧
      (∃ path,
        (writeBuildInfo Workspace.sole.root Workspace.sole.packageNames .bare).1 = .ok path) ∧
      BringsUpToDate Workspace.sole.root Workspace.sole.packageNames Session.bare.files
        (informedSession .sole { auditAll := .bool true } .graphless {} .bare).files ∧
      ∃ building auditing,
        BuildEffects .sole { auditAll := .bool true } .graphless {} .bare building auditing
          (runBuild .sole { auditAll := .bool true } .graphless {} .bare).1
          (runBuild .sole { auditAll := .bool true } .graphless {} .bare).2 := by
  have hends : Tools.graphless.EndsWithOwnFaults := by
    constructor
    · intro past globs arguments failure h
      cases h
    · intro past command arguments failure h
      cases h
    · intro past globs arguments failure h
      cases h
      exact ⟨_, rfl⟩
  have hinfo : ∃ path,
      (writeBuildInfo Workspace.sole.root Workspace.sole.packageNames .bare).1 = .ok path :=
    ⟨_, rfl⟩
  obtain ⟨building, auditing, heffects⟩ :=
    runBuild_effects .sole { auditAll := .bool true } .graphless {} .bare hends fun _ => hinfo
  have hcompiling : .compiling ∈
      (buildPipeline .sole { auditAll := .bool true } .graphless {} .bare).history := by
    decide +kernel
  exact ⟨hends, hinfo, heffects.informs.written rfl hcompiling, building, auditing, heffects⟩

end BuildAudit
