import Mathlib.Logic.Relation
import SelfUpdate.Downloader
import SelfUpdate.Proofs.Download.Courses
import SelfUpdate.Proofs.Worker

/-!
# Scenes of a downloader

What a downloader does is cut into turns, each of which is one step of a transfer, the removal of one
file or the taking up or closing of a job. Between two turns others may act. Settling is taking turns
until no job is left.
-/

namespace SelfUpdate

/-- A running job ends with its output, or without one when it crashed. -/
def Worker.conclude {ι ο : Type} (worker : Worker ι ο) : Option ο → Worker ι ο
  | some output => worker.finish output
  | none => worker.crash

namespace Downloader

variable {downloader : Downloader} {note : DownloadOutput → Effect Unit} {ticket : Nat}
  {update : Update} {world : World} {ledger : List (Update × Artifact)}

/-- What a downloader is at. -/
inductive Task where
  | resting
  | fetching (ticket : Nat) (update : Update) (stage : Transfer.Stage)
  /-- The files at the paths are still to be removed. -/
  | sweeping (report : CleanupReport) (paths : List Path)
  /-- The job has ended, and its number is still to be answered. -/
  | closing (result : Except (Halt DownloadError) DownloadOutput)

structure Scene where
  downloader : Downloader
  task : Task
  world : World
  /-- What transfers have committed, the oldest first. -/
  ledger : List (Update × Artifact)

def poll (downloader : Downloader) : Downloader :=
  { downloader with worker := downloader.worker.poll }

/-- What a cleanup begins with. -/
def beginSweep (downloader : Downloader) (disk : Disk) : Task :=
  match disk.list downloader.config.directory with
  | .error .notFound => .closing (.ok (.cleaned .empty))
  | .error error => .closing (.error (.failure (.io .list downloader.config.directory error)))
  | .ok paths => .sweeping .empty (downloader.arrange paths)

/-- What a job begins with. -/
def begin (downloader : Downloader) (ticket : Nat) (disk : Disk) : DownloadJob → Task
  | .fetch update => .fetching ticket update .begun
  | .clean => downloader.beginSweep disk

/-- What follows a job. -/
def conclude (note : DownloadOutput → Effect Unit) :
    Except (Halt DownloadError) DownloadOutput → Effect (Option (Except DownloadError DownloadOutput))
  | .ok output => do
    note output
    return some (.ok output)
  | .error (.failure error) => return some (.error error)
  | .error .crash => do
    Effect.log .error .worker (name ++ " worker job panicked; continuing with next job")
    return none

/-- What a transfer has committed when it comes to a stage. -/
def commits (update : Update) : Transfer.Stage → List (Update × Artifact)
  | .ended (.ok artifact) => [(update, artifact)]
  | _ => []

/-- The turns of a downloader; `note` is what follows at once when a job succeeds. -/
inductive Turn (note : DownloadOutput → Effect Unit) : Scene → Scene → Prop where
  | take {downloader : Downloader} {ticket : Nat} {job : DownloadJob} {world : World}
      {ledger : List (Update × Artifact)}
      (polled : downloader.worker.poll.running = some (ticket, job)) :
      Turn note ⟨downloader, .resting, world, ledger⟩
        ⟨downloader.poll, downloader.poll.begin ticket world.disk job, world, ledger⟩
  | fetch {downloader : Downloader} {ticket : Nat} {update : Update} {stage : Transfer.Stage}
      {world : World} {ledger : List (Update × Artifact)}
      (ongoing : ∀ result, stage ≠ .ended result) :
      Turn note ⟨downloader, .fetching ticket update stage, world, ledger⟩
        ⟨downloader,
          .fetching ticket update (Transfer.step downloader.config ticket update stage world).1,
          (Transfer.step downloader.config ticket update stage world).2,
          ledger ++ commits update (Transfer.step downloader.config ticket update stage world).1⟩
  | fetched {downloader : Downloader} {ticket : Nat} {update : Update} {world : World}
      {result : Except (Halt DownloadError) Artifact} {ledger : List (Update × Artifact)} :
      Turn note ⟨downloader, .fetching ticket update (.ended result), world, ledger⟩
        ⟨downloader, .closing (result.map .fetched), world, ledger⟩
  | sweep {downloader : Downloader} {report : CleanupReport} {path : Path} {paths : List Path}
      {world : World} {ledger : List (Update × Artifact)} :
      Turn note ⟨downloader, .sweeping report (path :: paths), world, ledger⟩
        ⟨downloader, .sweeping (Cleanup.removeFiles report [path] world).1 paths,
          (Cleanup.removeFiles report [path] world).2, ledger⟩
  | swept {downloader : Downloader} {report : CleanupReport} {world : World}
      {ledger : List (Update × Artifact)} :
      Turn note ⟨downloader, .sweeping report [], world, ledger⟩
        ⟨downloader, .closing (.ok (.cleaned report)), world, ledger⟩
  | close {downloader : Downloader} {result : Except (Halt DownloadError) DownloadOutput}
      {world : World} {ledger : List (Update × Artifact)} :
      Turn note ⟨downloader, .closing result, world, ledger⟩
        ⟨{ downloader with
            worker := downloader.worker.conclude (conclude note result world).1 },
          .resting, (conclude note result world).2, ledger⟩

/-- Whoever is at a job can take a turn. -/
theorem exists_turn (note : DownloadOutput → Effect Unit) (downloader : Downloader) {task : Task}
    (busy : task ≠ .resting) (world : World) (ledger : List (Update × Artifact)) :
    ∃ next, Turn note ⟨downloader, task, world, ledger⟩ next := by
  cases task with
  | resting => exact absurd rfl busy
  | fetching ticket update stage =>
      by_cases ended : ∃ result, stage = .ended result
      · obtain ⟨result, rfl⟩ := ended
        exact ⟨_, .fetched⟩
      · exact ⟨_, .fetch fun result same => ended ⟨result, same⟩⟩
  | sweeping report paths =>
      cases paths with
      | nil => exact ⟨_, .swept⟩
      | cons path paths => exact ⟨_, .sweep⟩
  | closing result => exact ⟨_, .close⟩

/-- Turns, one after another. -/
abbrev Turns (note : DownloadOutput → Effect Unit) : Scene → Scene → Prop :=
  Relation.ReflTransGen (Turn note)

/-! ## A job in turns -/

theorem runJob_run (job : DownloadJob) :
    downloader.runJob note ticket job world =
      conclude note (downloader.run ticket job world).1 (downloader.run ticket job world).2 := by
  rw [runJob, Stateful.bind_run, Effect.outputOf, Stateful.bind_run]
  rw [show (downloader.run ticket job).run world = downloader.run ticket job world from rfl]
  rcases (downloader.run ticket job world).1 with (error | _) | output <;> rfl

theorem course_turns {first second : Transfer.Stage} {early late : World}
    (note : DownloadOutput → Effect Unit) (ledger : List (Update × Artifact))
    (course : Transfer.Course downloader.config ticket update first early second late) :
    ∃ more, Turns note ⟨downloader, .fetching ticket update first, early, ledger⟩
      ⟨downloader, .fetching ticket update second, late, more⟩ := by
  induction course with
  | here => exact ⟨ledger, .refl⟩
  | @next stage between earlier ih =>
      obtain ⟨more, turns⟩ := ih
      by_cases ended : ∃ result, stage = .ended result
      · obtain ⟨result, rfl⟩ := ended
        exact ⟨more, turns⟩
      · have ongoing (result : Except (Halt DownloadError) Artifact) : stage ≠ .ended result :=
          fun same => ended ⟨result, same⟩
        exact ⟨_, turns.tail (.fetch ongoing)⟩

theorem removeFiles_cons (report : CleanupReport) (path : Path) (paths : List Path)
    (world : World) :
    Cleanup.removeFiles report (path :: paths) world =
      Cleanup.removeFiles (Cleanup.removeFiles report [path] world).1 paths
        (Cleanup.removeFiles report [path] world).2 := by
  simp only [Cleanup.removeFiles, Stateful.bind_run, Stateful.get_run, Stateful.ite_run]
  by_cases file : world.disk.isFile path = true
  · simp only [if_pos file, Effect.ofStep_run]
    cases world.disk.removeFile path with
    | ok disk => rfl
    | error error => cases error <;> rfl
  · simp only [if_neg file]
    rfl

theorem sweep_turns (report : CleanupReport) (paths : List Path) (world : World) :
    Turns note ⟨downloader, .sweeping report paths, world, ledger⟩
      ⟨downloader, .closing (.ok (.cleaned (Cleanup.removeFiles report paths world).1)),
        (Cleanup.removeFiles report paths world).2, ledger⟩ := by
  induction paths generalizing report world with
  | nil => exact .single .swept
  | cons path paths ih =>
      rw [removeFiles_cons]
      exact (Relation.ReflTransGen.single .sweep).trans (ih _ _)

/-- Running a job is taking turns to its end. -/
theorem run_turns (note : DownloadOutput → Effect Unit) (downloader : Downloader) (ticket : Nat)
    (ledger : List (Update × Artifact)) (quiet : world.Quiet) (job : DownloadJob) :
    ∃ more, Turns note ⟨downloader, downloader.begin ticket world.disk job, world, ledger⟩
      ⟨downloader, .closing (downloader.run ticket job world).1,
        (downloader.run ticket job world).2, more⟩ := by
  cases job with
  | fetch update =>
      have course := Transfer.course_run downloader.config ticket update quiet
      obtain ⟨more, turns⟩ := course_turns note ledger course
      have closed := turns.tail .fetched
      rw [run, Failing.map_run]
      exact ⟨more, closed⟩
  | clean =>
      refine ⟨ledger, ?_⟩
      rw [run, Failing.map_run, begin, beginSweep, Cleanup.run]
      simp only [Failing.bind_run, Failing.get_run]
      cases world.disk.list downloader.config.directory with
      | ok paths => exact sweep_turns _ _ _
      | error error => cases error <;> exact .refl

/-! ## What turns leave alone -/

/-- What follows a job leaves the disk and all but the records alone. -/
def Discreet (note : DownloadOutput → Effect Unit) : Prop :=
  ∀ output (world : World), world.Quiet →
    world.Alike (note output world).2 ∧ (note output world).2.disk = world.disk

theorem conclude_run (discreet : Discreet note) (quiet : world.Quiet)
    (result : Except (Halt DownloadError) DownloadOutput) :
    world.Alike (conclude note result world).2 ∧
      (conclude note result world).2.disk = world.disk := by
  rcases result with (error | _) | output
  · exact ⟨.refl world, rfl⟩
  · simp only [conclude, Stateful.bind_run, Effect.log_run quiet, Stateful.pure_run]
    exact ⟨world.alike_recorded _ _ _, world.disk_recorded _ _ _⟩
  · exact discreet output world quiet

/-- The report once a file was removed or could not be. -/
def account (report : CleanupReport) (path : Path) : Except IoError Disk → CleanupReport
  | .ok _ => { report with removed := report.removed + 1 }
  | .error .notFound => report
  | .error _ => { report with failed := report.failed ++ [path] }

/-- What sweeping over a path tells and leaves. -/
theorem sweep_outcome (quiet : world.Quiet) (report : CleanupReport) (path : Path) :
    world.Alike (Cleanup.removeFiles report [path] world).2 ∧
      (Cleanup.removeFiles report [path] world).1 =
        (if world.disk.isFile path then account report path (world.disk.removeFile path)
        else report) ∧
      (Cleanup.removeFiles report [path] world).2.disk =
        if world.disk.isFile path then (world.disk.removeFile path).toOption.getD world.disk
        else world.disk := by
  simp only [Cleanup.removeFiles, Stateful.bind_run, Stateful.get_run, Stateful.ite_run]
  by_cases file : world.disk.isFile path = true
  · simp only [if_pos file, Effect.ofStep_run]
    cases removed : world.disk.removeFile path with
    | ok disk =>
        have still : (world.setDisk disk).Quiet := quiet
        simp only [Cleanup.log, Stateful.bind_run, Effect.log_run still, Stateful.pure_run]
        exact ⟨(world.alike_setDisk disk).record _ _ _, rfl, by simp [Except.toOption]⟩
    | error error =>
        cases error with
        | notFound => exact ⟨.refl world, rfl, rfl⟩
        | _ =>
            simp only [Cleanup.log, Stateful.bind_run, Effect.log_run quiet, Stateful.pure_run]
            exact ⟨world.alike_recorded _ _ _, rfl, by simp [Except.toOption]⟩
  · simp only [if_neg file]
    exact ⟨.refl world, rfl, rfl⟩

/-- Sweeping over a path removes the file there, or it changes nothing. -/
theorem sweep_run (quiet : world.Quiet) (report : CleanupReport) (path : Path) :
    world.Alike (Cleanup.removeFiles report [path] world).2 ∧
      ((Cleanup.removeFiles report [path] world).2.disk = world.disk ∨
        world.disk.removeFile path = .ok (Cleanup.removeFiles report [path] world).2.disk) := by
  obtain ⟨alike, -, disk⟩ := sweep_outcome quiet report path
  rw [disk]
  refine ⟨alike, ?_⟩
  split
  · cases world.disk.removeFile path with
    | ok after => exact .inr rfl
    | error error => exact .inl rfl
  · exact .inl rfl

variable {scene next : Scene}

theorem Turn.quiet (discreet : Discreet note) (turn : Turn note scene next)
    (quiet : scene.world.Quiet) :
    next.world.Quiet ∧ next.world.network = scene.world.network ∧
      next.world.handedOver = scene.world.handedOver := by
  cases turn with
  | take | fetched | swept => exact ⟨quiet, rfl, rfl⟩
  | @fetch downloader ticket update stage =>
      have alike := (Transfer.step_move downloader.config ticket update quiet stage).2
      cases stage with
      | emptied slot => exact ⟨alike.quiet quiet, alike.network, alike.handedOver⟩
      | _ => exact ⟨alike.quiet quiet, alike.network, alike.handedOver⟩
  | @sweep _ report path =>
      have alike := (sweep_run quiet report path).1
      exact ⟨alike.quiet quiet, alike.network, alike.handedOver⟩
  | @close _ result =>
      have alike := (conclude_run discreet quiet result).1
      exact ⟨alike.quiet quiet, alike.network, alike.handedOver⟩

theorem Turns.quiet (discreet : Discreet note) (turns : Turns note scene next)
    (quiet : scene.world.Quiet) : next.world.Quiet := by
  induction turns with
  | refl => exact quiet
  | tail _ turn ih => exact (turn.quiet discreet ih).1

/-! ## Settling in turns -/

theorem runSome_turns (discreet : Discreet note) (downloader : Downloader) (count : Nat)
    (worker : Worker DownloadJob (Except DownloadError DownloadOutput))
    (ledger : List (Update × Artifact)) (quiet : world.Quiet) :
    ∃ more, Turns note ⟨{ downloader with worker := worker }, .resting, world, ledger⟩
      ⟨{ downloader with
          worker := (Worker.runSome (downloader.runJob note) count worker world).1 },
        .resting, (Worker.runSome (downloader.runJob note) count worker world).2, more⟩ := by
  induction count generalizing worker world ledger with
  | zero => exact ⟨ledger, .refl⟩
  | succ count ih =>
      rw [Worker.runSome]
      cases polled : worker.poll.running with
      | none =>
          rw [Worker.poll_of_rest polled]
          exact ⟨ledger, .refl⟩
      | some taken =>
          obtain ⟨ticket, job⟩ := taken
          obtain ⟨more, running⟩ := run_turns note (poll { downloader with worker := worker })
            ticket ledger quiet job
          have first := Relation.ReflTransGen.head (.take polled) running
          have closed := first.tail .close
          have job_run : downloader.runJob note ticket job world = _ := runJob_run job
          have same : (poll { downloader with worker := worker }).run ticket job =
              downloader.run ticket job := by
            cases job <;> rfl
          rw [same] at closed
          obtain ⟨last, onward⟩ := ih
            (worker.poll.conclude (conclude note (downloader.run ticket job world).1
              (downloader.run ticket job world).2).1) more (Turns.quiet discreet closed quiet)
          refine ⟨last, closed.trans ?_⟩
          simp only [Stateful.bind_run, job_run]
          cases answered : (conclude note (downloader.run ticket job world).1
              (downloader.run ticket job world).2).1 with
          | none =>
              rw [answered] at onward
              exact onward
          | some output =>
              rw [answered] at onward
              exact onward

/-- Settling is taking turns. -/
theorem settle_turns (discreet : Discreet note) (quiet : world.Quiet) :
    ∃ more, Turns note ⟨downloader, .resting, world, ledger⟩
      ⟨(downloader.settle note world).1, .resting, (downloader.settle note world).2, more⟩ :=
  runSome_turns discreet downloader (downloader.worker.queue.length + 1) downloader.worker ledger
    quiet

end Downloader

end SelfUpdate
