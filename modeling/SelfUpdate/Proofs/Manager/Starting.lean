import SelfUpdate.Manager.Session
import SelfUpdate.Proofs.Computation

/-!
# How managers start

A start prepares the download directory, loads the policy and starts the workers. The first of these that
fails is what keeps a manager from starting.
-/

namespace SelfUpdate.Manager

variable {runtime : Bool} {current : UInt32} {settings : Settings} {directory : Path}
  {store : PolicyStore} {manager : Manager} {world later : World}

/-- How the start of a manager ends. -/
inductive Starts (runtime : Bool) (current : UInt32) (settings : Settings) (directory : Path)
    (store : PolicyStore) (world : World) : Except ManagerError Manager × World → Prop where
  | unprepared {error : IoError} {later : World}
      (prepared : Effect.preparePrivateDirectory directory world = (.error error, later)) :
      Starts runtime current settings directory store world
        (.error (.downloadDirectory directory error), later)
  | unloaded {error : PolicyError} {ready later : World}
      (prepared : Effect.preparePrivateDirectory directory world = (.ok (), ready))
      (loaded : store.load ready = (.error error, later)) :
      Starts runtime current settings directory store world (.error (.policy error), later)
  | idle {policy : Policy} {ready later : World}
      (prepared : Effect.preparePrivateDirectory directory world = (.ok (), ready))
      (loaded : store.load ready = (.ok policy, later)) (none : runtime = false) :
      Starts runtime current settings directory store world
        (.error (.worker (.noRuntime Downloader.name)), later)
  | made {policy : Policy} {ready known : World}
      (prepared : Effect.preparePrivateDirectory directory world = (.ok (), ready))
      (loaded : store.load ready = (.ok policy, known)) (some_ : runtime = true) :
      Starts runtime current settings directory store world
        (.ok ⟨current, settings, directory, policy, store, .new Checker.name,
          ⟨downloadConfig settings directory, id, .new Downloader.name⟩⟩,
        (log .debug s!"Update manager ready (version code {current}, downloads in {directory})"
          known).2)

theorem start_starts (runtime : Bool) (current : UInt32) (settings : Settings) (directory : Path)
    (store : PolicyStore) (world : World) :
    Starts runtime current settings directory store world
      (start runtime current settings directory store world) := by
  rw [start, Stateful.bind_run]
  rcases prepared : Effect.preparePrivateDirectory directory world with ⟨error | _, ready⟩
  · exact .unprepared prepared
  · dsimp only
    rw [Stateful.bind_run]
    rcases loaded : store.load ready with ⟨error | policy, known⟩
    · exact .unloaded prepared loaded
    · cases runtime with
      | false => exact .idle prepared loaded rfl
      | true => exact .made prepared loaded rfl

/-- A manager that starts has the policy that its store has once the directory is prepared. -/
theorem exists_of_start
    (started : start runtime current settings directory store world = (.ok manager, later)) :
    ∃ policy ready known,
      Effect.preparePrivateDirectory directory world = (.ok (), ready) ∧
      store.load ready = (.ok policy, known) ∧
      manager = ⟨current, settings, directory, policy, store, .new Checker.name,
        ⟨downloadConfig settings directory, id, .new Downloader.name⟩⟩ ∧
      later = (log .debug
        s!"Update manager ready (version code {current}, downloads in {directory})" known).2 := by
  have starts := start_starts runtime current settings directory store world
  rw [started] at starts
  cases starts with
  | made prepared loaded => exact ⟨_, _, _, prepared, loaded, rfl, rfl⟩

/-- What a manager is when it has started. -/
theorem start_eq_ok
    (started : start runtime current settings directory store world = (.ok manager, later)) :
    ∃ policy, manager = ⟨current, settings, directory, policy, store, .new Checker.name,
      ⟨downloadConfig settings directory, id, .new Downloader.name⟩⟩ := by
  obtain ⟨policy, -, -, -, -, made, -⟩ := exists_of_start started
  exact ⟨policy, made⟩

/-- A manager starts with new workers. -/
theorem start_new
    (started : start runtime current settings directory store world = (.ok manager, later)) :
    manager.checker = .new Checker.name ∧ manager.downloader.worker = .new Downloader.name := by
  obtain ⟨policy, rfl⟩ := start_eq_ok started
  exact ⟨rfl, rfl⟩

/-- A manager starts with its store, and with the policy that this has once the directory is
prepared. -/
theorem start_policy_of_store
    (started : start runtime current settings directory store world = (.ok manager, later)) :
    (Effect.preparePrivateDirectory directory world).1 = .ok () ∧
      (store.load (Effect.preparePrivateDirectory directory world).2).1 = .ok manager.policy ∧
      manager.store = store := by
  obtain ⟨policy, ready, known, prepared, loaded, rfl, -⟩ := exists_of_start started
  rw [prepared, loaded]
  exact ⟨rfl, rfl, rfl⟩

theorem start_loaded
    (started : start runtime current settings directory store world = (.ok manager, later)) :
    ∃ ready, (store.load ready).1 = .ok manager.policy :=
  ⟨_, (start_policy_of_store started).2.1⟩

end SelfUpdate.Manager
