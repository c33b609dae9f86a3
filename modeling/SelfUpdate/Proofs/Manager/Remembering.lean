import SelfUpdate.Proofs.Manager.Confinement
import SelfUpdate.Proofs.Release.RoundTrip

/-!
# What leaves the last release as it is

Starting the log and a manager, and whatever a manager is asked for, leaves the file of the last
release as it was, or leaves it missing.
-/

namespace SelfUpdate

open Disk

variable {directories : Directories} {base : Location} {found : Option Update} {world : World}
  {disk : Disk} {α β : Type}

/-! ## The file of the last release -/

namespace Directories

/-- Where the last release is recorded. -/
def releasePlace (directories : Directories) (base : Location) : Location :=
  destination base directories.lastReleaseFile

/-- What the file of the last release tells: the update that it records, or nothing when there is no
such file. -/
def Remembers (directories : Directories) (base : Location) (disk : Disk) : Option Update → Prop
  | none => disk.identityAt? (directories.releasePlace base) = none
  | some update => update.IsRecorded disk directories.lastReleaseFile

theorem releasePlace_eq :
    directories.releasePlace base = placeOf base directories.cache ++ ["last_release.json"] :=
  destination_join base _ (by decide)

theorem releasePlace_ne {directory : Path} {name : String} (named : Path.isName name = true)
    (differ : name ≠ "last_release.json") :
    directories.releasePlace base ≠ destination base (Path.join directory name) := by
  rw [releasePlace_eq, destination_join base _ named]
  intro same
  obtain ⟨-, last⟩ := List.append_inj' same rfl
  exact differ (List.cons.inj last).1.symm

theorem Remembers.of_confined {inside way : Location → Prop} {before after : Disk}
    (remembers : directories.Remembers before.workingDirectory before found) (plain : before.Plain)
    (confined : Confined inside way before after)
    (outside : ¬ inside (directories.releasePlace before.workingDirectory)) :
    directories.Remembers before.workingDirectory after found := by
  cases found with
  | none =>
      cases there : after.identityAt? (directories.releasePlace before.workingDirectory) with
      | none => exact there
      | some identity =>
          cases remembers.symm.trans ((confined.elsewhere _ outside).identityAt? there)
  | some update => exact Update.IsRecorded.mono remembers (confined.keepsFile plain outside)

theorem Remembers.of_spares {before after : Disk}
    (remembers : directories.Remembers base before found) (spares : Spares before after) :
    directories.Remembers base after found := by
  cases found with
  | none =>
      cases there : after.identityAt? (directories.releasePlace base) with
      | none => exact there
      | some identity =>
          obtain ⟨mode, bytes, file⟩ := identityAt?_eq_some_iff.mp there
          have old := identityAt?_eq_some_iff.mpr
            ⟨mode, bytes, (spares.files _ identity mode bytes).mp file⟩
          cases remembers.symm.trans old
  | some update => exact Update.IsRecorded.mono remembers spares.keepsFile

end Directories

namespace World

/-- The frame of all that leaves the last release as it is. -/
def remembering (directories : Directories) (base : Location) (found : Option Update) : Frame where
  Holds world := world.Ready directories base ∧ directories.Remembers base world.disk found
  Rel _ _ := True
  refl _ := trivial
  trans _ _ := trivial

variable {before after : World}

theorem remembering_step {inside way : Location → Prop}
    (holds : (remembering directories base found).Holds before)
    (confined : Confined inside way before.disk after.disk)
    (sole : inside (directories.logPlace base) → ∀ location, inside location →
      location = directories.logPlace base)
    (outside : ¬ inside (directories.releasePlace base)) (network : after.network = before.network)
    (sink : after.sink = before.sink) : (remembering directories base found).Step before after := by
  obtain ⟨ready, remembers⟩ := holds
  refine ⟨trivial, ready.of_confined confined sole network sink, ?_⟩
  obtain rfl := ready.workingDirectory
  exact remembers.of_confined ready.plain confined outside

/-- The disk is as it was. -/
theorem remembering_same (holds : (remembering directories base found).Holds before)
    (disk : after.disk = before.disk) (network : after.network = before.network)
    (sink : after.sink = before.sink) : (remembering directories base found).Step before after := by
  have confined : Confined (fun _ => False) (fun _ => False) before.disk after.disk := by
    rw [disk]
    exact .refl holds.1.plain
  exact remembering_step holds confined (fun none => none.elim) not_false network sink

theorem remembering_setDisk {inside way : Location → Prop} {disk : Disk}
    (holds : (remembering directories base found).Holds before)
    (confined : Confined inside way before.disk disk)
    (sole : inside (directories.logPlace base) → ∀ location, inside location →
      location = directories.logPlace base)
    (outside : ¬ inside (directories.releasePlace base)) :
    (remembering directories base found).Step before (before.setDisk disk) :=
  remembering_step holds confined sole outside rfl rfl

/-- At most directories were made. -/
theorem remembering_made {disk : Disk} (holds : (remembering directories base found).Holds before)
    (confined : Confined (fun _ => False) (fun _ => True) before.disk disk) :
    (remembering directories base found).Step before (before.setDisk disk) :=
  remembering_setDisk holds confined (fun none => none.elim) not_false

theorem remembering_of_downloading (standard : directories.Standard)
    (holds : (remembering directories base found).Holds before)
    (step : (downloading directories base).Step before after) :
    (remembering directories base found).Step before after := by
  obtain ⟨ready, remembers⟩ := holds
  obtain rfl := ready.workingDirectory
  have listed : directories.lastReleaseFile ∈ directories.stateFiles := by
    simp [Directories.stateFiles]
  refine ⟨trivial, step.holds, remembers.of_confined ready.plain step.rel.confined ?_⟩
  exact not_or.mpr ⟨standard.not_inDownloads listed, Directories.ne_logPlace listed⟩

end World

open World (remembering remembering_setDisk remembering_same remembering_made
  remembering_of_downloading)

/-! ## Effects -/

namespace Effect

theorem remembering_logs (standard : directories.Standard) :
    (remembering directories base found).Logs :=
  fun level source text world holds =>
    remembering_of_downloading standard holds (downloading_logs level source text world holds.1)

theorem ensure_confined (plain : disk.Plain) :
    Confined (fun _ => False) (fun _ => True) disk (directories.ensure disk).2 := by
  have made {disk : Disk} (plain : disk.Plain) (path : Path) :
      Confined (fun _ => False) (fun _ => True) disk (makeDirectories path disk).2 :=
    .makeDirectories plain path fun _ _ _ => trivial
  have config := made plain directories.config
  have cache := made config.plain directories.cache
  rw [Directories.ensure]
  simp only [Failing.bind_run]
  cases (makeDirectories directories.config disk).1 with
  | error error => exact config
  | ok done =>
      dsimp only
      cases (makeDirectories directories.cache (makeDirectories directories.config disk).2).1 with
      | error error => exact config.trans cache
      | ok done => exact config.trans (cache.trans (made cache.plain directories.data))

theorem trimLogFile_remembering (limit : Nat) :
    (trimLogFile directories.logFile limit).Within (remembering directories base found) := by
  refine trimLogFile_within (fun bytes world holds => ?_) limit
  rw [ofStep_run]
  cases written : world.disk.writeFile directories.logFile bytes with
  | error error => exact .refl holds
  | ok disk =>
      obtain rfl := holds.1.workingDirectory
      have confined := Log.writeFile_confined holds.1.plain holds.1.sole written
      exact remembering_setDisk holds confined (fun _ _ same => same)
        (Directories.releasePlace_ne (by decide) (by decide))

theorem directLogTo_remembering :
    (directLogTo directories.logFile).Within (remembering directories base found) := by
  intro world holds
  obtain ⟨opened, disk, ran, kept, owns⟩ :=
    openLogFile_kept holds.1.plain holds.1.workingDirectory holds.1.sole
  have step : (remembering directories base found).Step world (world.setDisk disk) :=
    remembering_setDisk holds kept.confined (fun _ _ same => same)
      (Directories.releasePlace_ne (by decide) (by decide))
  rw [directLogTo, Stateful.bind_run, ran]
  cases opened with
  | none => exact step
  | some file =>
      obtain ⟨ready, remembers⟩ := step.holds
      refine ⟨trivial, ⟨ready.plain, ready.workingDirectory, ready.alone, ready.sole, ?_⟩, remembers⟩
      intro other sink
      by_cases unset : world.sink = .unset
      · have same : LogSink.file file = .file other := (if_pos unset).symm.trans sink
        cases same
        exact owns file rfl
      · exact ready.log other ((if_neg unset).symm.trans sink)

theorem startLog_remembering (standard : directories.Standard) (verbose : Bool) (limit : UInt64) :
    (startLog directories verbose limit).Within (remembering directories base found) :=
  startLog_within (remembering_logs standard)
    (fun _ holds => remembering_made holds (ensure_confined holds.1.plain)) trimLogFile_remembering
    directLogTo_remembering (fun _ _ holds => remembering_same holds rfl rfl rfl) verbose limit

theorem makePrivateDirectory_remembering :
    (ofSteps (makePrivateDirectory directories.downloads)).Within
      (remembering directories base found) := by
  intro world holds
  have named : Path.isName "updates" = true := by decide
  obtain rfl := holds.1.workingDirectory
  have place := placeOf_join world.disk.workingDirectory directories.data named
  have confined : Confined (· = placeOf world.disk.workingDirectory directories.downloads)
      (fun _ => True) world.disk _ :=
    .makePrivateDirectory holds.1.plain directories.downloads rfl fun _ => trivial
  rw [ofSteps_run]
  refine remembering_setDisk holds confined (fun here _ same => same.trans here.symm) ?_
  rw [Directories.downloads, place, ← destination_join _ _ named]
  exact Directories.releasePlace_ne named (by decide)

theorem saveFile_remembering (policy : Policy) :
    (PolicyStore.saveFile directories.policyFile policy).Within
      (remembering directories base found) := by
  refine .bind (fun world holds => ?_) fun _ => .pure _
  obtain rfl := holds.1.workingDirectory
  have confined : Confined
      (· = destination world.disk.workingDirectory directories.policyFile) (fun _ => True)
      world.disk _ :=
    .replaceFile holds.1.plain (by decide) (Text.encode policy.fileText) rfl fun _ => trivial
  rw [Effect.ofSteps_run]
  exact remembering_setDisk holds confined (fun here _ same => same.trans here.symm)
    (Directories.releasePlace_ne (by decide) (by decide))

end Effect

namespace Manager

variable {manager : Manager}

/-- A manager that keeps its policy and its artifacts where the updater has them. -/
structure LivesIn (directories : Directories) (manager : Manager) : Prop where
  store : manager.store = .file directories.policyFile
  works : manager.downloader.WorksIn directories.downloads

/-- A session that leaves the last release as it is. -/
abbrev Remembering (directories : Directories) (base : Location) (found : Option Update)
    (session : Session α) : Prop :=
  session.Within (LivesIn directories) (remembering directories base found)

theorem changePolicy_remembering (change : Policy → Policy) :
    Remembering directories base found (changePolicy change) := by
  intro manager world lives holds
  rw [changePolicy]
  simp only [Session.bind_run, Session.get_run, Session.lift_run, Session.set_run,
    Session.pure_run, lives.store, PolicyStore.save, Stateful.bind_run, Stateful.pure_run]
  exact ⟨Effect.saveFile_remembering _ world holds, rfl, lives.works⟩

section

variable (standard : directories.Standard)

include standard

theorem remembering_bounded : Bounded (LivesIn directories) (remembering directories base found) where
  logs := Effect.remembering_logs standard
  changes := changePolicy_remembering
  check _ _ lives := ⟨lives.store, lives.works⟩
  job _ _ lives := ⟨lives.store, lives.works.directory, lives.works.among⟩
  close _ lives := ⟨lives.store, lives.works.directory, lives.works.among⟩

theorem settle_remembering : Remembering directories base found settle := by
  intro manager world lives holds
  obtain ⟨step, works⟩ := settle_downloading lives.works holds.1
  exact ⟨remembering_of_downloading standard holds step, lives.store, works⟩

theorem checkNow_remembering : Remembering directories base found checkNow :=
  .bind (remembering_bounded standard).beginCheck fun _ => .bind (settle_remembering standard) fun _ =>
    .bind .get fun _ => .pure _

theorem checkIfDue_remembering : Remembering directories base found checkIfDue := by
  refine .bind (remembering_bounded standard).beginDueCheck fun begun => ?_
  cases begun with
  | none => exact .pure _
  | some ticket =>
      exact .bind (settle_remembering standard) fun _ => .bind .get fun _ => .pure _

theorem perform_remembering (job : DownloadJob) :
    Remembering directories base found (perform job) :=
  .bind ((remembering_bounded standard).beginJob job) fun _ => .bind (settle_remembering standard)
    fun _ => .bind .get fun _ => .pure _

theorem requestInstall_remembering (artifact : Path) :
    Remembering directories base found (requestInstall artifact) :=
  (remembering_bounded standard).requestInstall
    (fun _ => Effect.handOver_within (Effect.remembering_logs standard) fun _ holds =>
      remembering_same holds rfl rfl rfl) artifact

/-! ## Starting -/

theorem start_remembering (current : UInt32) (settings : Settings) :
    (start true current settings directories.downloads (.file directories.policyFile)).Within
      (remembering directories base found) :=
  start_within (Effect.remembering_logs standard) Effect.makePrivateDirectory_remembering _ _ _ _

end

end Manager

end SelfUpdate
