import BuildAudit.Tools.Basic

/-!
# Actions and what they add to a session

An action is followed step by step: `bind_of_ok` and `bind_of_error` say how a sequence goes on
after its first part, `bind_eq_ok` takes a successful sequence apart. But for the writing of files,
all that an action does to a session is to add events to it, which `Session.extend` does and which
the equations of the single actions say.

Doing actions in turn and doing all of them differ only in what happens after a failure, so they
succeed alike (`Action.all_eq_ok_iff`).
-/

namespace BuildAudit

section Sequence

variable {σ α β : Type} {action : ExceptT Failure (StateM σ) α}
  {next : α → ExceptT Failure (StateM σ) β} {before after : σ}

/-- A sequence goes on with the result of its first part. -/
theorem bind_of_ok {result : α} (h : action before = (.ok result, after)) :
    (action >>= next) before = next result after := by
  simp only [bind, ExceptT.bind, ExceptT.mk, StateT.bind, h]
  rfl

/-- A sequence ends with the failure of its first part. -/
theorem bind_of_error {failure : Failure} (h : action before = (.error failure, after)) :
    (action >>= next) before = (.error failure, after) := by
  simp only [bind, ExceptT.bind, ExceptT.mk, StateT.bind, h]
  rfl

/-- A sequence has a result just if both of its parts have one. -/
theorem bind_eq_ok {result : β} {last : σ} :
    (action >>= next) before = (.ok result, last) ↔
      ∃ first middle, action before = (.ok first, middle) ∧
        next first middle = (.ok result, last) := by
  constructor
  · intro h
    rcases hfirst : action before with ⟨outcome | outcome, middle⟩
    · rw [bind_of_error hfirst] at h
      cases h
    · rw [bind_of_ok hfirst] at h
      exact ⟨outcome, middle, rfl, h⟩
  · rintro ⟨first, middle, hfirst, hnext⟩
    rw [bind_of_ok hfirst, hnext]

end Sequence

namespace Session

/-- A session without files in which nothing has happened. -/
def bare : Session where
  files := { nodes := [], workingDirectory := [] }

/-- The session after further events that have changed no file. -/
def extend (session : Session) (events : List Event) : Session :=
  { session with events := session.events ++ events }

/-- A session without further events is the same session. -/
@[simp]
theorem extend_nil (session : Session) : session.extend [] = session := by
  simp [extend]

/-- Events after events are their concatenation. -/
@[simp]
theorem extend_extend (session : Session) (first second : List Event) :
    (session.extend first).extend second = session.extend (first ++ second) := by
  simp [extend]

/-- The files of a session stay. -/
@[simp]
theorem files_extend (session : Session) (events : List Event) :
    (session.extend events).files = session.files := rfl

/-- The calls of a session are those before and those among the further events. -/
@[simp]
theorem calls_extend (session : Session) (events : List Event) :
    (session.extend events).calls = session.calls ++ events.filterMap Event.call? := by
  simp [calls, extend]

/-- Logged records are no calls. -/
@[simp]
theorem filterMap_call?_logged (records : List LogRecord) :
    (records.map Event.logged).filterMap Event.call? = [] := by
  simp [List.filterMap_map, Function.comp_def, Event.call?]

/-- Only the calls `made`, with what is logged on the way, lead from one session to another: no file
is written. -/
def CallsOnly (session : Session) (made : List ToolCall) (later : Session) : Prop :=
  ∃ events, later = session.extend events ∧ events.filterMap Event.call? = made ∧
    ∀ path, Event.wrote path ∉ events

namespace CallsOnly

variable {session middle later : Session} {made more : List ToolCall}

/-- No call leads from a session to itself. -/
theorem refl (session : Session) : session.CallsOnly [] session :=
  ⟨[], session.extend_nil.symm, rfl, by simp⟩

/-- Calls after calls are their concatenation. -/
theorem trans (first : session.CallsOnly made middle) (second : middle.CallsOnly more later) :
    session.CallsOnly (made ++ more) later := by
  obtain ⟨events, rfl, rfl, hquiet⟩ := first
  obtain ⟨events', rfl, rfl, hquiet'⟩ := second
  refine ⟨events ++ events', extend_extend .., List.filterMap_append, fun path => ?_⟩
  rw [List.mem_append, not_or]
  exact ⟨hquiet path, hquiet' path⟩

/-- Logging makes no call. -/
theorem logged (session : Session) (records : List LogRecord) :
    session.CallsOnly [] (session.extend (records.map .logged)) :=
  ⟨_, rfl, filterMap_call?_logged records, by simp⟩

/-- The calls are added to those before. -/
theorem calls_eq (h : session.CallsOnly made later) : later.calls = session.calls ++ made := by
  obtain ⟨events, rfl, rfl, -⟩ := h
  exact calls_extend session events

/-- Without a call the calls stay as they are. -/
theorem calls_eq_of_quiet (h : session.CallsOnly [] later) : later.calls = session.calls := by
  rw [h.calls_eq, List.append_nil]

/-- Calls may be surrounded by what makes no call. -/
theorem between_quiet {start last : Session} (before : session.CallsOnly [] start)
    (calls : start.CallsOnly made last) (after : last.CallsOnly [] later) :
    session.CallsOnly made later := by
  have hmoves := before.trans (calls.trans after)
  rwa [List.append_nil, List.nil_append] at hmoves

end CallsOnly

end Session

section OnlyCalls

variable {σ α β : Type} {view : σ → Session} {action : ExceptT Failure (StateM σ) α}

/-- All that an action does to the session in a state is to make calls and to log. -/
def OnlyCalls (view : σ → Session) (action : ExceptT Failure (StateM σ) α) : Prop :=
  ∀ before, ∃ made, (view before).CallsOnly made (view (action before).2)

/-- A state that stays as it is has no call more. -/
theorem onlyCalls_of_unchanged (h : ∀ before, view (action before).2 = view before) :
    OnlyCalls view action := fun before => ⟨[], by rw [h before]; exact .refl _⟩

/-- A sequence makes only calls if its parts do. -/
theorem OnlyCalls.bind {next : α → ExceptT Failure (StateM σ) β} (haction : OnlyCalls view action)
    (hnext : ∀ result, OnlyCalls view (next result)) : OnlyCalls view (action >>= next) := by
  intro before
  obtain ⟨made, hmade⟩ := haction before
  rcases h : action before with ⟨failure | result, after⟩
  · rw [h] at hmade
    exact ⟨made, by rwa [bind_of_error h]⟩
  · rw [h] at hmade
    obtain ⟨more, hmore⟩ := hnext result after
    exact ⟨made ++ more, by rw [bind_of_ok h]; exact hmade.trans hmore⟩

end OnlyCalls

/-- The present state is read without a change. -/
theorem get_apply {σ : Type} (state : σ) :
    (get : ExceptT Failure (StateM σ) σ) state = (.ok state, state) := rfl

namespace Action

variable {α : Type}

theorem note_apply (event : Event) (session : Session) :
    note event session = (.ok (), session.extend [event]) := rfl

theorem ofExcept_apply (result : Except Failure α) (session : Session) :
    ofExcept result session = (result, session) := rfl

theorem outcome_apply (action : Action α) (session : Session) :
    outcome action session = (.ok (action session).1, (action session).2) := rfl

theorem log_apply (level : Level) (text : CodeText) (session : Session) :
    log level text session = (.ok (), session.extend [.logged { level, text }]) := rfl

theorem logAll_apply (records : List LogRecord) (session : Session) :
    logAll records session = (.ok (), session.extend (records.map .logged)) := rfl

/-- Actions done in turn have results just if the first one has one and the others have. -/
theorem inTurn_cons_eq_ok {action : Action α} {rest : List (Action α)} {results : List α}
    {session later : Session} :
    inTurn (action :: rest) session = (.ok results, later) ↔
      ∃ first others middle, action session = (.ok first, middle) ∧
        inTurn rest middle = (.ok others, later) ∧ results = first :: others := by
  rw [inTurn, bind_eq_ok]
  constructor
  · rintro ⟨first, middle, hfirst, hnext⟩
    obtain ⟨others, last, hothers, hresults⟩ := bind_eq_ok.1 hnext
    cases hresults
    exact ⟨first, others, middle, hfirst, hothers, rfl⟩
  · rintro ⟨first, others, middle, hfirst, hothers, rfl⟩
    exact ⟨first, middle, hfirst, bind_eq_ok.2 ⟨others, later, hothers, rfl⟩⟩

/-- All actions have results just if the first one has one and the others have. -/
theorem all_cons_eq_ok {action : Action α} {rest : List (Action α)} {results : List α}
    {session later : Session} :
    all (action :: rest) session = (.ok results, later) ↔
      ∃ first others middle, action session = (.ok first, middle) ∧
        all rest middle = (.ok others, later) ∧ results = first :: others := by
  -- The rest is done even if the first action fails, so only the results are left to compare.
  rw [all, bind_of_ok (outcome_apply action session), bind_of_ok (outcome_apply (all rest) _)]
  rcases action session with ⟨failure | first, middle⟩
  · constructor
    · intro h
      cases h
    · rintro ⟨first, others, last, hfirst, -⟩
      cases hfirst
  · rcases hrest : all rest middle with ⟨failure | others, last⟩
    · constructor
      · intro h
        cases h
      · rintro ⟨first', others, middle', hfirst, hothers, -⟩
        cases hfirst
        rw [hrest] at hothers
        cases hothers
    · constructor
      · intro h
        cases h
        exact ⟨first, others, middle, rfl, hrest, rfl⟩
      · rintro ⟨first', others', middle', hfirst, hothers, rfl⟩
        cases hfirst
        rw [hrest] at hothers
        cases hothers
        rfl

/-- Doing all actions gives results just if doing them in turn does, and the same ones. -/
theorem all_eq_ok_iff {actions : List (Action α)} {results : List α} {session later : Session} :
    all actions session = (.ok results, later) ↔
      inTurn actions session = (.ok results, later) := by
  induction actions generalizing session results with
  | nil => rfl
  | cons action rest ih =>
    rw [inTurn_cons_eq_ok, all_cons_eq_ok]
    simp only [ih]

end Action

namespace Tools

variable {α : Type} (tools : Tools)

/-- What a tool answers to a call, its result apart. -/
def answer (past : List ToolCall) : ToolCall → Except Failure Unit
  | .compile globs arguments => (tools.compile past globs arguments).answer
  | .graph globs arguments => (tools.graph past globs arguments).answer.map fun _ => ()
  | .backend command arguments => (tools.backend past command arguments).answer

/-- What a tool logs during a call. -/
def records (past : List ToolCall) : ToolCall → List LogRecord
  | .compile globs arguments => (tools.compile past globs arguments).records
  | .graph globs arguments => (tools.graph past globs arguments).records
  | .backend command arguments => (tools.backend past command arguments).records

/-- What happens during a call: the call itself and what the tool logs. -/
def callEvents (past : List ToolCall) (call : ToolCall) : List Event :=
  .called call :: (tools.records past call).map .logged

/-- A call is the only call during itself. -/
@[simp]
theorem filterMap_call?_callEvents (past : List ToolCall) (call : ToolCall) :
    (tools.callEvents past call).filterMap Event.call? = [call] := by
  simp [callEvents, Event.call?]

/-- The events of a call lead to a later session by that call. -/
theorem callsOnly_callEvents (session : Session) (past : List ToolCall) (call : ToolCall) :
    session.CallsOnly [call] (session.extend (tools.callEvents past call)) :=
  ⟨_, rfl, tools.filterMap_call?_callEvents past call, by simp [callEvents]⟩

/-- Making a call adds its events and gives the answer to it. -/
theorem perform_apply (call : ToolCall) (reply : List ToolCall → Reply α) (session : Session) :
    perform call reply session =
      ((reply session.calls).answer,
        session.extend (.called call :: (reply session.calls).records.map .logged)) := by
  rw [perform, bind_of_ok (get_apply session), bind_of_ok (Action.note_apply _ session),
    bind_of_ok (Action.logAll_apply _ _), Action.ofExcept_apply, Session.extend_extend]
  rfl

/-- Asking for an import graph adds the events of the call and gives the tool's answer. -/
theorem runGraph_apply (globs arguments : List String) (session : Session) :
    tools.runGraph globs arguments session =
      ((tools.graph session.calls globs arguments).answer,
        session.extend (tools.callEvents session.calls (.graph globs arguments))) :=
  perform_apply _ _ session

end Tools

end BuildAudit
