import SelfUpdate.Proofs.Manager.Calls
import SelfUpdate.Proofs.Manager.Starting
import SelfUpdate.Proofs.Requests

/-!
# What calls ask of the network

A manager that starts and a call that is begun ask for nothing. At most they give a job to a worker,
and a check is for the address where the manager looks for updates at that moment.
-/

namespace SelfUpdate

/-! ## Sessions that ask for nothing -/

/-- The frame of what asks for nothing, whatever it hands over. -/
def Frame.unasked : Frame where
  Holds _ := True
  Rel before after := after.requests = before.requests
  refl _ := rfl
  trans early late := late.trans early

theorem Frame.unasked_loose : Frame.unasked.Loose := fun _ _ _ _ _ => ⟨rfl, trivial⟩

namespace Session

variable {α : Type}

/-- A session that asks for nothing. -/
def Silent (session : Session α) : Prop :=
  ∀ manager world, (session manager world).2.requests = world.requests

theorem Silent.of_within {session : Session α} (within : session.Within (fun _ => True) .unasked) :
    session.Silent :=
  fun manager world => (within manager world trivial trivial).1.rel

end Session

namespace Manager

variable {manager after : Manager} {world later : World}

theorem unasked_bounded : Bounded (fun _ => True) .unasked := .of_loose Frame.unasked_loose

theorem start_silent {runtime : Bool} {current : UInt32} {settings : Settings} {directory : Path}
    {store : PolicyStore} : (start runtime current settings directory store).Silent :=
  .of_within (start_within Frame.silent_loose.logs (Frame.silent_loose.ofSteps _) _ _ _ _)

theorem noteOutput_silent (output : DownloadOutput) : (noteOutput output).Silent :=
  .of_within (noteOutput_within Frame.silent_loose.logs output)

/-- What a call that is begun makes of the workers; a check that it begins gets a number. -/
inductive Begun (manager : Manager) : Option Nat → Manager → Prop where
  | nothing {after : Manager} (checker : after.checker = manager.checker)
      (worker : after.downloader.worker = manager.downloader.worker) : Begun manager none after
  | check {after : Manager}
      (checker : after.checker = manager.checker.submit ⟨manager.effectiveUrl, manager.current⟩)
      (worker : after.downloader.worker = manager.downloader.worker) :
      Begun manager (some manager.checker.next) after
  | job {after : Manager} {job : DownloadJob} (checker : after.checker = manager.checker)
      (worker : after.downloader.worker = manager.downloader.worker.submit job) :
      Begun manager none after
  | closed {after : Manager} (checker : after.checker = manager.checker.shutDown)
      (worker : after.downloader.worker = manager.downloader.worker.shutDown) :
      Begun manager none after

/-- The number of a check that a call has begun. -/
def Pending.check? : Pending → Option Nat
  | .check ticket => some ticket
  | .dueCheck ticket => some ticket
  | _ => none

theorem beginCheck_begun (manager : Manager) (world : World) :
    Begun manager (some (beginCheck manager world).1.1) (beginCheck manager world).1.2 := by
  rw [beginCheck_fst]
  exact .check rfl rfl

theorem requestInstall_same (artifact : Path) (manager : Manager) (world : World) :
    (requestInstall artifact manager world).1.2 = manager := by
  rw [requestInstall]
  simp only [Session.bind_run, Session.get_run, Session.lift_run]
  cases (committedArtifact? manager.directory artifact world).1 with
  | none => rfl
  | some file =>
      simp only [Session.bind_run, Session.lift_run]
      cases (Effect.handOver ⟨file, manager.settings.mediaType⟩
        (committedArtifact? manager.directory artifact world).2).1 <;> rfl

theorem begin_begun (call : Call) (manager : Manager) (world : World) :
    Begun manager (call.begin manager world).1.1.check? (call.begin manager world).1.2 := by
  cases call with
  | check => exact beginCheck_begun manager world
  | checkIfDue =>
      have begun := beginCheck_begun manager world
      simp only [Call.begin, Session.bind_run, beginDueCheck, Session.get_run]
      split
      · exact .nothing rfl rfl
      · simp only [Session.bind_run, Session.getWorld_run]
        split
        · exact .nothing rfl rfl
        · exact begun
  | download update =>
      change Begun manager none _
      exact .job rfl rfl
  | cleanUp =>
      change Begun manager none _
      exact .job rfl rfl
  | dismiss | clearDismissal | enableAutoCheck =>
      change Begun manager none _
      exact .nothing rfl rfl
  | chooseUrl wish =>
      obtain ⟨level, text, same⟩ := chooseUrl_eq wish
      rw [Call.begin, same]
      exact .nothing rfl rfl
  | install artifact =>
      have same := requestInstall_same artifact manager world
      change Begun manager none (requestInstall artifact manager world).1.2
      rw [same]
      exact .nothing rfl rfl
  | shutDown =>
      change Begun manager none _
      exact .closed rfl rfl

/-! ## Calls -/

/-- A call asks for nothing at once. -/
theorem begin_silent (call : Call) : call.begin.Silent :=
  .of_within (unasked_bounded.begin call fun _ _ => unasked_bounded.requestInstall
    (fun _ => Effect.handOver_within Frame.unasked_loose.logs fun _ _ => ⟨rfl, trivial⟩) _)

end Manager

end SelfUpdate
