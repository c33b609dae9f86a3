import Mathlib.Logic.Relation
import SelfUpdate.Proofs.Manager.Frames
import SelfUpdate.Proofs.World

/-!
# What calls do at once

A call that is begun writes to the log, keeps the policy, gives a job to a worker or keeps the workers
from taking more. Only a call that installs hands something to the installer.
-/

namespace SelfUpdate

/-! ## Running a session -/

namespace Session

variable {α β : Type} (manager : Manager) (world : World)

@[simp] theorem bind_run (first : Session α) (next : α → Session β) :
    (first >>= next) manager world =
      next (first manager world).1.1 (first manager world).1.2 (first manager world).2 := (rfl)

@[simp] theorem map_run (f : α → β) (first : Session α) :
    (f <$> first) manager world =
      ((f (first manager world).1.1, (first manager world).1.2), (first manager world).2) := (rfl)

@[simp] theorem pure_run (a : α) :
    (pure a : Session α) manager world = ((a, manager), world) := (rfl)

@[simp] theorem get_run :
    (get : Session Manager) manager world = ((manager, manager), world) := (rfl)

@[simp] theorem getWorld_run :
    (getThe World : Session World) manager world = ((world, manager), world) := (rfl)

@[simp] theorem set_run (after : Manager) :
    (set after : Session PUnit) manager world = (((), after), world) := (rfl)

@[simp] theorem modify_run (change : Manager → Manager) :
    (modify change : Session PUnit) manager world = (((), change manager), world) := (rfl)

@[simp] theorem lift_run (effect : Effect α) :
    (liftM effect : Session α) manager world =
      (((effect world).1, manager), (effect world).2) := (rfl)

end Session

/-! ## Keeping the policy -/

/-- The file that a policy is kept in. -/
def PolicyStore.path? : PolicyStore → Option Path
  | file path => some path
  | memory _ => none

/-- The file at a path was replaced. -/
def Replaced (place : Option Path) (before after : Disk) : Prop :=
  ∃ path bytes, place = some path ∧ after = (Disk.replaceFile path bytes before).2

theorem PolicyStore.save_run (store : PolicyStore) (policy : Policy) (world : World) :
    (store.save policy world).1.2.path? = store.path? ∧
      ∃ disk, (store.save policy world).2 = world.setDisk disk ∧
        Relation.ReflTransGen (Replaced store.path?) world.disk disk := by
  cases store with
  | file path => exact ⟨rfl, _, rfl, .single ⟨path, _, rfl, rfl⟩⟩
  | memory held => exact ⟨rfl, world.disk, rfl, .refl⟩

namespace Manager

variable {manager after : Manager} {world later : World} {handed : Option InstallRequest}

/-- What a call that is begun leaves of a manager and its world, and what it hands over. -/
structure Leaves (manager : Manager) (world : World) (handed : Option InstallRequest)
    (after : Manager) (later : World) : Prop where
  settings : after.settings = manager.settings
  directory : after.directory = manager.directory
  store : after.store.path? = manager.store.path?
  config : after.downloader.config = manager.downloader.config
  arrange : after.downloader.arrange = manager.downloader.arrange
  disk : Relation.ReflTransGen (Replaced manager.store.path?) world.disk later.disk
  network : later.network = world.network
  sink : later.sink = world.sink
  handedOver : later.handedOver = world.handedOver ++ handed.toList

namespace Leaves

theorem refl (manager : Manager) (world : World) : Leaves manager world none manager world :=
  ⟨rfl, rfl, rfl, rfl, rfl, .refl, rfl, rfl, (List.append_nil _).symm⟩

variable {level : Log.Level} {source : Log.Source} {text : String}

/-- A record is written last. -/
theorem record (leaves : Leaves manager world handed after later) :
    Leaves manager world handed after (later.recorded level source text) := by
  have alike := later.alike_recorded level source text
  exact { leaves with
    disk := (later.disk_recorded level source text).symm ▸ leaves.disk
    network := alike.network.trans leaves.network
    sink := alike.sink.trans leaves.sink
    handedOver := alike.handedOver.trans leaves.handedOver }

/-- A record is written first. -/
theorem of_recorded (leaves : Leaves manager (world.recorded level source text) handed after later) :
    Leaves manager world handed after later := by
  have alike := world.alike_recorded level source text
  have disk := leaves.disk
  rw [world.disk_recorded] at disk
  exact { leaves with
    disk := disk
    network := leaves.network.trans alike.network
    sink := leaves.sink.trans alike.sink
    handedOver := by rw [leaves.handedOver, alike.handedOver] }

theorem quiet (leaves : Leaves manager world handed after later) (quiet : world.Quiet) :
    later.Quiet := by
  rw [World.Quiet, leaves.sink]
  exact quiet

end Leaves

theorem changePolicy_leaves (change : Policy → Policy) (manager : Manager) (world : World) :
    Leaves manager world none (changePolicy change manager world).1.2
      (changePolicy change manager world).2 := by
  obtain ⟨store, disk, saved, replaced⟩ :=
    manager.store.save_run (change manager.policy) world
  have run : (changePolicy change manager world).2 = world.setDisk disk := saved
  rw [run]
  exact ⟨rfl, rfl, store, rfl, rfl, replaced, rfl, rfl, (List.append_nil _).symm⟩

/-- The frame of what a manager leaves of a quiet world as long as it hands nothing over. -/
def leaving (manager : Manager) (world : World) : Frame where
  Holds later := later.Quiet ∧ Leaves manager world none manager later
  Rel _ _ := True
  refl _ := trivial
  trans _ _ := trivial

theorem leaving_bounded (manager : Manager) (world : World) :
    Bounded (Leaves manager world none · world) (leaving manager world) where
  logs level source text later holds := by
    obtain ⟨quiet, left⟩ := holds
    rw [Effect.log_run quiet]
    exact ⟨trivial, (later.alike_recorded level source text).quiet quiet, left.record⟩
  changes change after later kept holds := by
    obtain ⟨quiet, left⟩ := holds
    have saved := changePolicy_leaves change after later
    refine ⟨⟨trivial, saved.quiet quiet, ?_⟩, ?_⟩
    · exact { left with
        disk := left.disk.trans (kept.store ▸ saved.disk)
        network := saved.network.trans left.network
        sink := saved.sink.trans left.sink
        handedOver := by rw [saved.handedOver, left.handedOver, List.append_assoc]; rfl }
    · exact { kept with
        settings := saved.settings.trans kept.settings
        directory := saved.directory.trans kept.directory
        store := saved.store.trans kept.store
        config := saved.config.trans kept.config
        arrange := saved.arrange.trans kept.arrange }
  check _ _ kept := { kept with }
  job _ _ kept := { kept with }
  close _ kept := { kept with }

/-- What is bounded like this leaves the manager and its world as said. -/
theorem Leaves.of_within {α : Type} {session : Session α} (quiet : world.Quiet)
    (within : session.Within (Leaves manager world none · world) (leaving manager world)) :
    Leaves manager world none (session manager world).1.2 (session manager world).2 := by
  obtain ⟨step, kept⟩ := within manager world (.refl _ _) ⟨quiet, .refl _ _⟩
  exact { step.holds.2 with
    settings := kept.settings
    directory := kept.directory
    store := kept.store
    config := kept.config
    arrange := kept.arrange }

theorem beginCheck_leaves (quiet : world.Quiet) :
    Leaves manager world none (beginCheck manager world).1.2 (beginCheck manager world).2 :=
  .of_within quiet (leaving_bounded manager world).beginCheck

/-- To begin a check is to note the attempt in the policy and to give the checker a job. -/
theorem beginCheck_fst (manager : Manager) (world : World) :
    (beginCheck manager world).1 = (manager.checker.next,
      { (changePolicy (fun policy => { policy with lastCheck := world.clock })
          manager world).1.2 with
        checker := manager.checker.submit ⟨manager.effectiveUrl, manager.current⟩ }) := by
  rw [beginCheck]
  simp only [Session.bind_run, Session.getWorld_run]
  cases (changePolicy (fun policy => { policy with lastCheck := world.clock })
    manager world).1.1 <;> rfl

/-! ## Handing over -/

/-- A path stands for a file that may be installed. -/
structure Chooses (directory : Path) (disk : Disk) (artifact file : Path) : Prop where
  committed : isStagingName artifact = false
  canonical : disk.canonical artifact = .ok file
  inside : ∃ home, disk.canonical directory = .ok home ∧ Path.parent? file = some home
  isFile : disk.isFile file = true

/-- A path stands for one file at most. -/
theorem Chooses.request_iff {directory artifact file : Path} {disk : Disk} {mediaType : String}
    (chooses : Chooses directory disk artifact file) (request : InstallRequest) :
    some ⟨file, mediaType⟩ = some request ↔
      Chooses directory disk artifact request.artifact ∧ request.mediaType = mediaType := by
  constructor
  · rintro ⟨⟩
    exact ⟨chooses, rfl⟩
  · rintro ⟨again, rfl⟩
    cases chooses.canonical.symm.trans again.canonical
    rfl

theorem committedArtifact?_run (directory artifact : Path) (world : World) :
    (∃ file, Chooses directory world.disk artifact file ∧
        committedArtifact? directory artifact world = (some file, world)) ∨
      (∀ file, ¬ Chooses directory world.disk artifact file) ∧ ∃ level source text,
        committedArtifact? directory artifact world =
          (none, (Effect.log level source text world).2) := by
  rw [committedArtifact?]
  split
  · rename_i staging
    refine .inr ⟨fun file chooses => ?_, _, _, _, rfl⟩
    cases staging.symm.trans chooses.committed
  · rename_i committed
    simp only [Stateful.bind_run, Stateful.get_run]
    cases located : world.disk.canonical artifact with
    | error error =>
        refine .inr ⟨fun file chooses => ?_, _, _, _, rfl⟩
        cases located.symm.trans chooses.canonical
    | ok file =>
        cases place : world.disk.canonical directory with
        | error error =>
            refine .inr ⟨fun file chooses => ?_, _, _, _, rfl⟩
            obtain ⟨home, found, -⟩ := chooses.inside
            cases place.symm.trans found
        | ok home =>
            simp only [Stateful.ite_run]
            split
            · rename_i inside
              exact .inl ⟨file, ⟨Bool.eq_false_iff.mpr committed, located,
                ⟨home, place, inside.1⟩, inside.2⟩, rfl⟩
            · rename_i outside
              refine .inr ⟨fun other chooses => outside ?_, _, _, _, rfl⟩
              obtain ⟨above, found, parent⟩ := chooses.inside
              cases located.symm.trans chooses.canonical
              cases place.symm.trans found
              exact ⟨parent, chooses.isFile⟩

theorem handOver_leaves (manager : Manager) (quiet : world.Quiet) (request : InstallRequest) :
    Leaves manager world (some request) manager (Effect.handOver request world).2 ∧
      (Effect.handOver request world).2.disk = world.disk := by
  have handed {world : World} : Leaves manager world (some request) manager
      { world with handedOver := world.handedOver ++ [request] } :=
    ⟨rfl, rfl, rfl, rfl, rfl, .refl, rfl, rfl, rfl⟩
  rw [Effect.handOver]
  simp only [Stateful.bind_run, Stateful.get_run, Stateful.ite_run]
  split
  · simp only [Effect.log_run quiet, Stateful.modify_run]
    cases world.installer.refusal? request <;>
      exact ⟨handed.of_recorded, world.disk_recorded _ _ _⟩
  · simp only [Stateful.modify_run]
    cases world.installer.refusal? request <;> exact ⟨handed, rfl⟩

/-- A file is handed over exactly when the path stands for one that may be installed. -/
theorem requestInstall_leaves (manager : Manager) (artifact : Path) (quiet : world.Quiet) :
    ∃ handed, Leaves manager world handed (requestInstall artifact manager world).1.2
        (requestInstall artifact manager world).2 ∧
      (requestInstall artifact manager world).2.disk = world.disk ∧
      ∀ request, handed = some request ↔
        Chooses manager.directory world.disk artifact request.artifact ∧
          request.mediaType = manager.settings.mediaType := by
  rw [requestInstall]
  simp only [Session.bind_run, Session.get_run, Session.lift_run]
  rcases committedArtifact?_run manager.directory artifact world with
    ⟨file, chooses, found⟩ | ⟨unfit, level, source, text, refused⟩
  · rw [found]
    obtain ⟨leaves, same⟩ := handOver_leaves manager quiet ⟨file, manager.settings.mediaType⟩
    have still := leaves.quiet quiet
    refine ⟨some ⟨file, manager.settings.mediaType⟩, ?_⟩
    simp only [Session.bind_run, Session.lift_run]
    generalize Effect.handOver ⟨file, manager.settings.mediaType⟩ world = run at leaves same still
    obtain ⟨result, later⟩ := run
    -- whatever the installer says, only a record follows
    cases result <;>
      simp only [log, Session.bind_run, Session.lift_run, Effect.log_run still, Session.pure_run,
        World.disk_recorded] <;>
      exact ⟨leaves.record, same, chooses.request_iff⟩
  · rw [refused, Effect.log_run quiet]
    refine ⟨none, (Leaves.refl manager world).record, world.disk_recorded _ _ _, fun request => ?_⟩
    exact ⟨nofun, fun chooses => absurd chooses.1 (unfit _)⟩

theorem begin_leaves (manager : Manager) (call : Call) (quiet : world.Quiet) :
    ∃ handed, Leaves manager world handed (call.begin manager world).1.2
        (call.begin manager world).2 ∧
      ∀ request ∈ handed, (call.begin manager world).2.disk = world.disk ∧
        ∃ artifact, Chooses manager.directory world.disk artifact request.artifact := by
  by_cases installs : ∃ artifact, call = .install artifact
  · obtain ⟨artifact, rfl⟩ := installs
    obtain ⟨handed, leaves, same, only⟩ := requestInstall_leaves manager artifact quiet
    exact ⟨handed, leaves, fun request chosen => ⟨same, artifact, ((only request).mp chosen).1⟩⟩
  · have within := (leaving_bounded manager world).begin call fun artifact same =>
      absurd ⟨artifact, same⟩ installs
    exact ⟨none, .of_within quiet within, nofun⟩

/-! ## Calls that are begun together -/

/-- What each call keeps that is begun, all of them keep. -/
theorem begins_induction {P : Manager → World → Prop}
    (keeps : ∀ {manager : Manager} {world : World} (call : Call), P manager world →
      P (call.begin manager world).1.2 (call.begin manager world).2)
    (calls : List Call) (holds : P manager world) :
    let begun := (calls.mapM Call.begin : Session (List Pending)) manager world
    P begun.1.2 begun.2 := by
  induction calls generalizing manager world with
  | nil => exact holds
  | cons call calls ih =>
      rw [List.mapM_cons]
      exact ih (keeps call holds)

end Manager

end SelfUpdate
