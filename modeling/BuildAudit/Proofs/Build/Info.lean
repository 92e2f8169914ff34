import BuildAudit.Build.Info
import BuildAudit.Proofs.Session

/-!
# The module with the build information

Bringing the module with the build information up to date calls no tool.
-/

namespace BuildAudit

section KeepsCalls

variable {α β : Type} {action : Action α}

/-- An action that calls no tool, whatever its outcome. -/
def KeepsCalls (action : Action α) : Prop :=
  ∀ session, (action session).2.calls = session.calls

/-- A sequence calls no tool if its parts do not. -/
theorem KeepsCalls.bind {next : α → Action β} (haction : KeepsCalls action)
    (hnext : ∀ result, KeepsCalls (next result)) : KeepsCalls (action >>= next) := by
  intro session
  have hfirst := haction session
  rcases h : action session with ⟨failure | result, middle⟩
  · rw [h] at hfirst
    rw [bind_of_error h, hfirst]
  · rw [h] at hfirst
    rw [bind_of_ok h, hnext result middle, hfirst]

theorem keepsCalls_pure (result : α) : KeepsCalls (pure result) := fun _ => rfl

theorem keepsCalls_ofExcept (result : Except Failure α) : KeepsCalls (Action.ofExcept result) :=
  fun _ => rfl

theorem keepsCalls_log (level : Level) (text : CodeText) : KeepsCalls (Action.log level text) := by
  intro session
  rw [Action.log_apply, Session.calls_extend]
  exact List.append_nil _

end KeepsCalls

/-- Writing a file calls no tool. -/
theorem keepsCalls_writeText (path : PosixPath) (text : String) :
    KeepsCalls (writeText path text) := by
  intro session
  rw [writeText]
  split
  · rfl
  · rw [Session.calls, List.filterMap_append]
    exact List.append_nil _

/-- Bringing the module up to date calls no tool. -/
theorem keepsCalls_writeBuildInfo (root : PosixPath) (packages : List String) :
    KeepsCalls (writeBuildInfo root packages) := by
  have hget : KeepsCalls (get : Action Session) := fun _ => rfl
  let path := root.join (.ofText buildInfoPath)
  -- What follows once it is known whether the file has to be written.
  have hfinish (upToDate : Bool) :
      KeepsCalls (if upToDate then pure path else do
        writeText path (renderBuildInfo packages version)
        Action.log .debug s!"Wrote {path.text}"
        pure path) := by
    split
    · exact keepsCalls_pure path
    · exact (keepsCalls_writeText _ _).bind fun _ =>
        (keepsCalls_log _ _).bind fun _ => keepsCalls_pure path
  rw [writeBuildInfo]
  refine hget.bind fun _ => (keepsCalls_ofExcept _).bind fun present => ?_
  cases present with
  | true => exact (keepsCalls_ofExcept _).bind hfinish
  | false => exact (keepsCalls_pure false).bind hfinish

end BuildAudit
