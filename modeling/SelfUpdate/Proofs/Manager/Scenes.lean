import SelfUpdate.Proofs.Download.Commitment
import SelfUpdate.Proofs.Checker
import SelfUpdate.Proofs.Manager.Calls
import SelfUpdate.Proofs.Manager.Starting

/-!
# Scenes of a manager

What a manager does is cut into calls that are begun, checks and turns of the downloader, and others
may act between them. Calls that are started together, and all that their jobs do, are such a history.
-/

namespace SelfUpdate

namespace Manager

variable {home : Location} {manager : Manager} {world : World}
  {ledger : List (Update × Artifact)}

/-- A manager, what its downloader is at, and what transfers have committed, the oldest first. -/
structure Scene where
  manager : Manager
  task : Downloader.Task
  world : World
  ledger : List (Update × Artifact)

namespace Scene

/-- The part of the downloader. -/
def downloads (scene : Scene) : Downloader.Scene :=
  ⟨scene.manager.downloader, scene.task, scene.world, scene.ledger⟩

/-- The scene once the downloader has done something. -/
def follow (scene : Scene) (next : Downloader.Scene) : Scene :=
  ⟨{ scene.manager with downloader := next.downloader }, next.task, next.world, next.ledger⟩

/-- The scene once a call was begun. -/
def begin (scene : Scene) (call : Call) : Scene :=
  { scene with
    manager := (call.begin scene.manager scene.world).1.2
    world := (call.begin scene.manager scene.world).2 }

/-- The scene once the checker has done its next job. -/
def check (scene : Scene) : Scene :=
  { scene with
    manager := { scene.manager with
      checker := (Worker.runSome Checker.runJob 1 scene.manager.checker scene.world).1 }
    world := (Worker.runSome Checker.runJob 1 scene.manager.checker scene.world).2 }

end Scene

/-- Others leave the download directory and the way to it alone, and make no links. -/
structure Apart (directory : Path) (home : Location) (before after : World) : Prop
    extends Downloader.Apart directory home before after where
  linkFree : after.disk.LinkFree
  workingDirectory : after.disk.workingDirectory = before.disk.workingDirectory
  handedOver : after.handedOver = before.handedOver

/-- What can happen to a manager. -/
inductive Happens (home : Location) : Scene → Scene → Prop where
  | call {scene : Scene} (call : Call) : Happens home scene (scene.begin call)
  | check {scene : Scene} : Happens home scene scene.check
  | turn {scene : Scene} {next : Downloader.Scene}
      (turn : Downloader.Turn noteOutput scene.downloads next) :
      Happens home scene (scene.follow next)
  | others {scene : Scene} {world : World}
      (apart : Apart scene.manager.directory home scene.world world) :
      Happens home scene { scene with world := world }

abbrev History (home : Location) : Scene → Scene → Prop := Relation.ReflTransGen (Happens home)

/-! ## Start -/

theorem load_unmoved (quiet : world.Quiet) (store : PolicyStore) :
    world.Unmoved (store.load world).2 := by
  have noted (level : Log.Level) (text : String) :
      world.Unmoved (PolicyStore.log level text world).2 := by
    rw [PolicyStore.log, Effect.log_run quiet]
    exact .recorded world _ _ _
  cases store with
  | memory held => exact .refl world
  | file path =>
      rw [PolicyStore.load, PolicyStore.loadFile]
      simp only [Stateful.bind_run, Stateful.get_run]
      cases world.disk.readText path with
      | error error =>
          cases error with
          | notFound => exact noted _ _
          | _ => exact .refl world
      | ok text =>
          dsimp only
          cases Policy.parse text with
          | ok policy => exact .refl world
          | error error => exact noted _ _

theorem preparePrivateDirectory_run (quiet : world.Quiet) (path : Path) :
    (Effect.preparePrivateDirectory path world).1 =
        (Disk.makePrivateDirectory path world.disk).1 ∧
      (world.setDisk (Disk.makePrivateDirectory path world.disk).2).Unmoved
        (Effect.preparePrivateDirectory path world).2 := by
  have still : (world.setDisk (Disk.makePrivateDirectory path world.disk).2).Quiet := quiet
  rw [Effect.preparePrivateDirectory]
  simp only [Stateful.bind_run, Effect.ofSteps_run, Stateful.ite_run]
  split
  · simp only [Effect.log_run still, Stateful.pure_run]
    exact ⟨trivial, .recorded _ _ _ _⟩
  · exact ⟨rfl, .refl _⟩

/-- What a manager is when it starts, and what was done for it. -/
theorem start_ok {runtime : Bool} {current : UInt32} {settings : Settings} {directory : Path}
    {store : PolicyStore} {later : World} (quiet : world.Quiet)
    (started : start runtime current settings directory store world = (.ok manager, later)) :
    ∃ disk, Disk.makePrivateDirectory directory world.disk = (.ok (), disk) ∧
      (world.setDisk disk).Unmoved later ∧ manager.directory = directory ∧
      manager.store = store ∧ manager.settings = settings ∧
      manager.downloader.config = downloadConfig settings directory := by
  obtain ⟨policy, ready, known, prepares, loads, rfl, rfl⟩ := exists_of_start started
  obtain ⟨answered, prepared⟩ := preparePrivateDirectory_run quiet directory
  rw [prepares] at answered prepared
  have still := prepared.quiet quiet
  have loaded := load_unmoved still store
  rw [loads] at loaded
  refine ⟨_, Prod.ext answered.symm rfl, ?_, rfl, rfl, rfl, rfl⟩
  rw [log, Effect.log_run (loaded.quiet still)]
  exact (prepared.trans loaded).trans (.recorded known _ _ _)

/-! ## Settling -/

theorem noteOutput_discreet : Downloader.Discreet noteOutput := by
  intro output world quiet
  cases output with
  | fetched artifact => exact ⟨.refl world, rfl⟩
  | cleaned report =>
      have still := world.alike_recorded .info .manager
        s!"Removed {report.removed} stale update file(s)"
      have after := still.quiet quiet
      simp only [noteOutput, log, Stateful.bind_run, Effect.log_run quiet, Stateful.ite_run]
      split
      · simp only [Effect.log_run after]
        exact ⟨still.record _ _ _, by simp⟩
      · exact ⟨still, by simp⟩

theorem checks_history (count : Nat) (scene : Scene) :
    History home scene { scene with
      manager := { scene.manager with
        checker := (Worker.runSome Checker.runJob count scene.manager.checker scene.world).1 }
      world := (Worker.runSome Checker.runJob count scene.manager.checker scene.world).2 } := by
  induction count generalizing scene with
  | zero => exact .refl
  | succ count ih =>
      have onward := ih scene.check
      rw [Worker.runSome_succ]
      exact .head .check onward

theorem turns_history (scene : Scene) {next : Downloader.Scene}
    (turns : Downloader.Turns noteOutput scene.downloads next) :
    History home scene (scene.follow next) := by
  induction turns with
  | refl => exact .refl
  | tail _ turn ih => exact ih.tail (.turn turn)

/-- Settling is a history. -/
theorem settle_history (ledger : List (Update × Artifact)) (quiet : world.Quiet)
    (alone : world.network.Alone) :
    ∃ more, History home ⟨manager, .resting, world, ledger⟩
      ⟨(settle manager world).1.2, .resting, (settle manager world).2, more⟩ := by
  let checked := manager.checker.settle world
  let middle : Scene := ⟨{ manager with checker := checked.1 }, .resting, checked.2, ledger⟩
  have checks : History home ⟨manager, .resting, world, ledger⟩ middle :=
    checks_history (manager.checker.queue.length + 1) ⟨manager, .resting, world, ledger⟩
  have moved := Checker.runSome_unmoved quiet alone (manager.checker.queue.length + 1)
    manager.checker
  obtain ⟨more, turns⟩ : ∃ more, Downloader.Turns noteOutput middle.downloads
      ⟨(manager.downloader.settle noteOutput checked.2).1, .resting,
        (manager.downloader.settle noteOutput checked.2).2, more⟩ :=
    Downloader.settle_turns noteOutput_discreet (moved.quiet quiet)
  exact ⟨more, checks.trans (turns_history middle turns)⟩

/-- Beginning calls, one after another, is a history. -/
theorem begins_history (ledger : List (Update × Artifact)) (calls : List Call)
    (quiet : world.Quiet) (alone : world.network.Alone) :
    let begun := (calls.mapM Call.begin : Session (List Pending)) manager world
    History home ⟨manager, .resting, world, ledger⟩ ⟨begun.1.2, .resting, begun.2, ledger⟩ ∧
      begun.2.Quiet ∧ begun.2.network.Alone := by
  refine begins_induction (P := fun after later =>
    History home ⟨manager, .resting, world, ledger⟩ ⟨after, .resting, later, ledger⟩ ∧
      later.Quiet ∧ later.network.Alone) ?_ calls ⟨.refl, quiet, alone⟩
  rintro after later call ⟨onward, still, onwards⟩
  obtain ⟨handed, leaves, -⟩ := begin_leaves after call still
  exact ⟨onward.tail (.call call), leaves.quiet still, leaves.network ▸ onwards⟩

/-- Calls that are started together are a history, with all that their jobs do. -/
theorem together_history (ledger : List (Update × Artifact)) (calls : List Call)
    (quiet : world.Quiet) (alone : world.network.Alone) :
    ∃ more, History home ⟨manager, .resting, world, ledger⟩
      ⟨(together calls manager world).1.2, .resting, (together calls manager world).2, more⟩ := by
  obtain ⟨begun, still, onwards⟩ := begins_history ledger calls quiet alone
  obtain ⟨more, settled⟩ := settle_history ledger still onwards
  exact ⟨more, begun.trans settled⟩

end Manager

end SelfUpdate
