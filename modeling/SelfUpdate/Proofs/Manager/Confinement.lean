import SelfUpdate.Proofs.Download.Confinement
import SelfUpdate.Proofs.Manager.Handoff

/-!
# Downloads and cleanups spare what the updater knows

Whatever artifacts are called, a manager that downloads and cleans up changes nothing but entries of
the download directory: its settings, its policy and the last release stay as they are, and the log
only grows.
-/

namespace SelfUpdate.Manager

open Disk World

variable {directories : Directories} {base : Location} {manager : Manager} {world : World}

/-- Whether a call is for the downloader. -/
def Call.isJob : Call → Bool
  | .download _ => true
  | .cleanUp => true
  | _ => false

theorem noteOutput_downloading (output : DownloadOutput) :
    (noteOutput output).Within (downloading directories base) :=
  noteOutput_within Effect.downloading_logs output

theorem settle_downloading (works : manager.downloader.WorksIn directories.downloads)
    (ready : world.Ready directories base) :
    (downloading directories base).Step world (settle manager world).2 ∧
      (settle manager world).1.2.downloader.WorksIn directories.downloads := by
  have checked := Checker.settle_within Effect.downloading_logs Effect.getText_downloading
    manager.checker world ready
  have done := Worker.settle_within
    (Downloader.runJob_downloading works noteOutput_downloading) manager.downloader.worker
    _ checked.holds
  rw [settle_run]
  exact ⟨checked.trans done, works.directory, works.among⟩

/-- To begin a job is to hand it to the downloader. -/
theorem begin_job {call : Call} (job : call.isJob = true)
    (works : manager.downloader.WorksIn directories.downloads) :
    (call.begin manager world).2 = world ∧
      (call.begin manager world).1.2.downloader.WorksIn directories.downloads := by
  cases call with
  | download | cleanUp => exact ⟨rfl, works.directory, works.among⟩
  | _ => cases job

theorem begin_jobs {calls : List Call} (jobs : ∀ call ∈ calls, call.isJob = true)
    (works : manager.downloader.WorksIn directories.downloads) :
    let begun := (calls.mapM Call.begin : Session (List Pending)) manager world
    begun.2 = world ∧ begun.1.2.downloader.WorksIn directories.downloads := by
  induction calls generalizing manager with
  | nil => exact ⟨rfl, works⟩
  | cons call calls ih =>
      rw [List.forall_mem_cons] at jobs
      obtain ⟨still, works⟩ := @begin_job directories manager world _ jobs.1 works
      rw [List.mapM_cons]
      simp only [Session.bind_run, Session.pure_run, still]
      exact ih jobs.2 works

theorem together_downloading {calls : List Call} (jobs : ∀ call ∈ calls, call.isJob = true)
    (works : manager.downloader.WorksIn directories.downloads)
    (ready : world.Ready directories base) :
    (downloading directories base).Step world (together calls manager world).2 ∧
      (together calls manager world).1.2.downloader.WorksIn directories.downloads := by
  obtain ⟨still, works⟩ := @begin_jobs directories manager world _ jobs works
  simp only [together, Session.bind_run, Session.get_run, Session.pure_run, still]
  exact settle_downloading works ready

/-- Any number of groups of jobs. -/
theorem groups_downloading {groups : List (List Call)}
    (jobs : ∀ calls ∈ groups, ∀ call ∈ calls, call.isJob = true)
    (works : manager.downloader.WorksIn directories.downloads)
    (ready : world.Ready directories base) :
    (downloading directories base).Step world
      ((groups.mapM together : Session (List (List Reply))) manager world).2 := by
  induction groups generalizing manager world with
  | nil => exact .refl ready
  | cons calls groups ih =>
      rw [List.forall_mem_cons] at jobs
      obtain ⟨step, works⟩ := together_downloading jobs.1 works ready
      rw [List.mapM_cons]
      simp only [Session.bind_run, Session.pure_run]
      exact step.trans (ih jobs.2 works step.holds)

/-- Downloads and cleanups change entries of the download directory only. Elsewhere at most this
directory and those above it are made, and lines of records are appended to the log; what is known to
the updater can be read as before. -/
theorem jobs_confined (standard : directories.Standard) (plain : world.disk.Plain)
    (alone : world.network.Alone)
    (sole : Log.Sole directories world.disk.workingDirectory world.disk)
    (log : ∀ file, world.sink = .file file →
      Log.Owns directories world.disk.workingDirectory world.disk file)
    (works : manager.downloader.WorksIn directories.downloads) {groups : List (List Call)}
    (jobs : ∀ calls ∈ groups, ∀ call ∈ calls, call.isJob = true) :
    let base := world.disk.workingDirectory
    let after := ((groups.mapM together : Session (List (List Reply))) manager world).2
    (∀ location, ¬ directories.InDownloads base location → location ≠ directories.logPlace base →
      SparedAt (directories.OnWay base) world.disk after.disk location) ∧
    (∃ noted written, after.records = world.records ++ noted ∧ written.Sublist noted ∧
      Log.Grows (directories.OnWay base (directories.logPlace base)) (Log.lines world.now written)
        (world.disk.get? (directories.logPlace base))
        (after.disk.get? (directories.logPlace base))) ∧
    ∀ file ∈ directories.stateFiles,
      SparedAt (directories.OnWay base) world.disk after.disk (destination base file) ∧
        KeepsFile file world.disk after.disk := by
  intro base after
  have spared := (groups_downloading jobs works ⟨plain, rfl, alone, sole, log⟩).rel
  have outside {file : Path} (listed : file ∈ directories.stateFiles) :
      ¬ (directories.InDownloads base (destination base file) ∨
        destination base file = directories.logPlace base) :=
    not_or.mpr ⟨standard.not_inDownloads listed, Directories.ne_logPlace listed⟩
  exact ⟨fun location noEntry noLog =>
      spared.confined.elsewhere location (not_or.mpr ⟨noEntry, noLog⟩),
    spared.log, fun file listed => ⟨spared.confined.elsewhere _ (outside listed),
      spared.confined.keepsFile plain (outside listed)⟩⟩

/-- A disk on which the updater has files of all kinds. -/
def knowingDisk : Disk where
  entries := [(["cache"], .directory directoryMode),
    (["cache", "last_release.json"], .file 0 fileMode [1]),
    (["config"], .directory directoryMode),
    (["config", "settings.json"], .file 1 fileMode [2]),
    (["data"], .directory directoryMode),
    (["data", "update_policy.json"], .file 2 fileMode [3]),
    (["data", "debug.log"], .file 3 fileMode [])]
  freshIdentity := 4
  workingDirectory := []
  sealedDirectories := []

theorem knowingDisk_plain : knowingDisk.Plain :=
  .of_entries (.of_entries (by decide) (by decide)) (by simp [knowingDisk]) (by decide)

theorem knowingDisk_sole : Log.Sole (.rootedAt "/") [] knowingDisk :=
  .of_entries (by decide)

/-- Neither the prefix nor the version of an artifact leads out of the download directory. -/
theorem jobs_confined_dots :
    let world := { Transfer.worldOf knowingDisk Transfer.oneChunk with
      leastLevel := some .debug, sink := .file ⟨"/data/debug.log", 3⟩ }
    let manager := { usual with
      downloader := ⟨⟨"/data/updates", "../update_policy.json", 1⟩, id, .new Downloader.name⟩ }
    let groups := [[.download (Transfer.singleOctet "/../../config" (by decide)), .cleanUp],
      [.cleanUp]]
    let after := ((groups.mapM together : Session (List (List Reply))) manager world).2
    after.disk.get? ["config", "settings.json"] = some (.file 1 fileMode [2]) ∧
      after.disk.get? ["data", "update_policy.json"] = some (.file 2 fileMode [3]) ∧
      after.disk.get? ["cache", "last_release.json"] = some (.file 0 fileMode [1]) := by
  intro world manager groups after
  have alone : world.network.Alone :=
    ⟨fun _ _ => rfl, fun _ _ => Transfer.oneChunk_undisturbed.alone⟩
  have owns : Log.Owns (.rootedAt "/") [] knowingDisk ⟨"/data/debug.log", 3⟩ :=
    .of_place knowingDisk_plain knowingDisk_sole (by decide)
  obtain ⟨-, -, kept⟩ := @jobs_confined (.rootedAt "/") manager world (.rooted "/") knowingDisk_plain
    alone knowingDisk_sole (fun file same => by cases same; exact owns)
    ⟨rfl, fun _ => List.Subset.refl _⟩ groups (by decide)
  have same {file : Path} (listed : file ∈ (Directories.rootedAt "/").stateFiles)
      (there : knowingDisk.get? (destination [] file) ≠ none) :
      after.disk.get? (destination [] file) = knowingDisk.get? (destination [] file) :=
    (kept file listed).1.resolve_right fun missing => there missing.1
  exact ⟨@same "/config/settings.json" (by decide) (by decide),
    @same "/data/update_policy.json" (by decide) (by decide),
    @same "/cache/last_release.json" (by decide) (by decide)⟩

end SelfUpdate.Manager
