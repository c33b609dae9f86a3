import SelfUpdate.Downloader
import SelfUpdate.Proofs.Download.Custody
import SelfUpdate.Proofs.Download.Frames
import SelfUpdate.Proofs.Log

/-!
# Downloads are confined

While nobody else acts, downloads and cleanups change nothing but entries of the download directory,
save that they make this directory and append to the log.
-/

namespace SelfUpdate

open Disk

variable {directories : Directories} {base : Location} {world : World} {disk : Disk} {ε α β : Type}

namespace World

/-- On a plain disk nobody else acts, and the log file is in its place and nowhere else. -/
structure Ready (directories : Directories) (base : Location) (world : World) : Prop where
  plain : world.disk.Plain
  workingDirectory : world.disk.workingDirectory = base
  alone : world.network.Alone
  sole : Log.Sole directories base world.disk
  log : ∀ file, world.sink = .file file → Log.Owns directories base world.disk file

/-- A world stays ready when nothing but the place of the log comes to hold what was there. -/
theorem Ready.of_confined {inside way : Location → Prop} {before after : World}
    (ready : before.Ready directories base)
    (confined : Confined inside way before.disk after.disk)
    (sole : inside (directories.logPlace base) → ∀ location, inside location →
      location = directories.logPlace base)
    (network : after.network = before.network) (sink : after.sink = before.sink) :
    after.Ready directories base where
  plain := confined.plain
  workingDirectory := confined.workingDirectory.trans ready.workingDirectory
  alone := network ▸ ready.alone
  sole := ready.sole.mono ready.plain confined sole
  log file found := (ready.log file (sink ▸ found)).mono confined sole

/-- At most entries of the download directory have changed, directories were made on the way to it,
and the log has grown by records that were kept. -/
structure Spared (directories : Directories) (base : Location) (before after : World) : Prop where
  confined : Confined
    (fun location => directories.InDownloads base location ∨ location = directories.logPlace base)
    (directories.OnWay base) before.disk after.disk
  now : after.now = before.now
  log : ∃ noted written, after.records = before.records ++ noted ∧ written.Sublist noted ∧
    Log.Grows (directories.OnWay base (directories.logPlace base)) (Log.lines before.now written)
      (before.disk.get? (directories.logPlace base)) (after.disk.get? (directories.logPlace base))

theorem Spared.refl (ready : world.Ready directories base) : Spared directories base world world where
  confined := .refl ready.plain
  now := rfl
  log := ⟨[], [], (List.append_nil _).symm, .slnil, .same _⟩

theorem Spared.trans {first second third : World} (early : Spared directories base first second)
    (late : Spared directories base second third) : Spared directories base first third where
  confined := early.confined.trans late.confined
  now := late.now.trans early.now
  log := by
    obtain ⟨noted, written, records, among, grows⟩ := early.log
    obtain ⟨more, further, recorded, within, growing⟩ := late.log
    refine ⟨noted ++ more, written ++ further, ?_, among.append within, ?_⟩
    · rw [recorded, records, List.append_assoc]
    · rw [early.now] at growing
      rw [Log.lines, List.flatMap_append]
      exact grows.trans growing

/-- The frame of downloads. -/
def downloading (directories : Directories) (base : Location) : Frame where
  Holds := Ready directories base
  Rel := Spared directories base
  refl := .refl
  trans := .trans

/-- Entries of the download directory have changed. -/
theorem step_of_confined {before after : World} (ready : before.Ready directories base)
    (confined : Confined (directories.InDownloads base) (directories.OnWay base) before.disk
      after.disk)
    (network : after.network = before.network) (sink : after.sink = before.sink)
    (records : after.records = before.records) (now : after.now = before.now) :
    (downloading directories base).Step before after where
  rel :=
    { confined := confined.mono (fun _ => .inl) fun _ => id
      now := now
      log := ⟨[], [], by rw [records, List.append_nil], .slnil,
        .of_sparedAt (confined.elsewhere _ Directories.logPlace_not_inDownloads)⟩ }
  holds := ready.of_confined confined
    (fun here => absurd here Directories.logPlace_not_inDownloads) network sink

theorem step_setDisk (ready : world.Ready directories base)
    (confined : Confined (directories.InDownloads base) (directories.OnWay base) world.disk disk) :
    (downloading directories base).Step world (world.setDisk disk) :=
  step_of_confined ready confined rfl rfl rfl rfl

/-- The disk is as it was. -/
theorem step_of_disk {before after : World} (ready : before.Ready directories base)
    (disk : after.disk = before.disk) (network : after.network = before.network)
    (sink : after.sink = before.sink) (records : after.records = before.records)
    (now : after.now = before.now) : (downloading directories base).Step before after :=
  step_of_confined ready (by rw [disk]; exact .refl ready.plain) network sink records now

end World

open World (downloading step_of_confined step_setDisk step_of_disk)

/-! ## Single effects -/

namespace Effect

theorem downloading_logs : (downloading directories base).Logs := by
  intro level source text world ready
  obtain ⟨disk, sink, noted, written, run, among, kept, owns⟩ :=
    log_kept ready.plain ready.workingDirectory ready.sole ready.log level source text
  rw [run]
  exact
    { rel :=
        { confined := kept.confined.mono (fun _ => .inr) fun _ => id
          now := rfl
          log := ⟨noted, written, rfl, among, kept.grows⟩ }
      holds :=
        { plain := kept.confined.plain
          workingDirectory := kept.confined.workingDirectory.trans ready.workingDirectory
          alone := ready.alone
          sole := ready.sole.mono ready.plain kept.confined fun _ _ same => same
          log := owns } }

theorem getText_downloading (url : String) : (getText url).Within (downloading directories base) := by
  intro world ready
  refine step_of_disk ready ?_ rfl rfl rfl rfl
  change world.disk.afterActions (world.network.text world.requests url).interference = world.disk
  rw [ready.alone.text]
  rfl

theorem tell_downloading (ticket : Nat) (event : Progress) :
    (tell ticket event).Within (downloading directories base) :=
  fun _ ready => step_of_disk ready rfl rfl rfl rfl rfl

theorem makeDirectories_downloading :
    (ofSteps (makeDirectories directories.downloads)).Within (downloading directories base) := by
  intro world ready
  rw [ofSteps_run]
  refine step_setDisk ready (.makeDirectories ready.plain _ fun above listed some_ => ?_)
  exact ⟨above, listed, some_, by rw [ready.workingDirectory]⟩

/-- Removing a file of the download directory. -/
theorem removeFile_downloading {name : String} (named : Path.isName name = true) :
    (ofStep (·.removeFile (Path.join directories.downloads name))).Within
      (downloading directories base) := by
  intro world ready
  rw [ofStep_run]
  cases removed : world.disk.removeFile (Path.join directories.downloads name) with
  | error error => exact .refl ready
  | ok disk =>
      obtain ⟨location, node, names, found, solid, rfl⟩ := removeFile_eq_ok removed
      refine step_setDisk ready (.erase ready.plain names.ne_nil found solid ⟨name, ?_⟩)
      rw [names.eq_destination ready.plain.linkFree, destination_join _ _ named,
        ready.workingDirectory]

end Effect

/-! ## Slots -/

namespace Slot

variable {name : String} (isName : Path.isName name = true)

include isName

theorem removePrevious_downloading : (removePrevious (Path.join directories.downloads name)).Within
    (downloading directories base) := by
  refine .bind (.lift (Effect.removeFile_downloading isName)) fun removed => ?_
  cases removed with
  | ok done => exact .lift (Effect.downloading_logs _ _ _)
  | error error =>
      cases error with
      | notFound => exact .pure ()
      | _ => exact .fail _

theorem reset_downloading :
    (named directories.downloads name).reset.Within (downloading directories base) :=
  .bind (removePrevious_downloading (isName_staging isName)) fun _ =>
    removePrevious_downloading isName

theorem discardStaging_downloading :
    (named directories.downloads name).discardStaging.Within (downloading directories base) := by
  refine .bind (Effect.removeFile_downloading (isName_staging isName)) fun removed => ?_
  cases removed with
  | ok done => exact Effect.downloading_logs _ _ _
  | error error =>
      cases error with
      | notFound => exact .pure ()
      | _ => exact Effect.downloading_logs _ _ _

/-- A staging file that can be read is promoted as a file. -/
theorem promote_downloading {bytes : Bytes} (ready : world.Ready directories base)
    (read : world.disk.readFile (named directories.downloads name).staging = .ok bytes) :
    (downloading directories base).Step world
      ((named directories.downloads name).promote world).2 := by
  obtain ⟨location, identity, mode, located, found⟩ := readFile_eq_ok_iff.mp read
  have stagingNamed := isName_staging isName
  have place := locate_eq_destination ready.plain.linkFree located
  rw [named, destination_join _ _ stagingNamed, ready.workingDirectory] at place
  rw [promote, Effect.ofStep_run]
  cases renamed : world.disk.rename (named directories.downloads name).staging
      (named directories.downloads name).committed with
  | error error => exact .refl ready
  | ok disk =>
      obtain ⟨home, node, leads, text, short, staged, free, rfl⟩ :=
        rename_join_eq_ok stagingNamed isName (staging_ne name) renamed
      obtain rfl := leads.eq_placeOf ready.plain.linkFree
      rw [ready.workingDirectory] at staged free ⊢
      rw [place, staged] at found
      obtain rfl := Option.some.inj found
      refine step_setDisk ready ?_
      exact .move ready.plain isName (staging_ne name) staged (replaceError?_eq_none rfl free)
        ⟨_, rfl⟩ ⟨_, rfl⟩

end Slot

/-- A file that was verified could be read, and nothing else was done. -/
theorem Digest.readFile_of_verify {path : Path} {expected : String}
    (verified : (Digest.verify path expected world).1 = true) :
    ∃ bytes, world.disk.readFile path = .ok bytes ∧
      (Digest.verify path expected world).2 = world := by
  simp only [verify, Stateful.bind_run, Stateful.get_run, ofFile] at verified ⊢
  cases read : world.disk.readFile path with
  | ok bytes => exact ⟨bytes, rfl, rfl⟩
  | error error =>
      rw [read] at verified
      cases verified

/-! ## Transfers -/

namespace Transfer

theorem log_downloading (level : Log.Level) (text : String) :
    (log level text).Within (downloading directories base) :=
  log_within Effect.downloading_logs level text

/-- What comes goes to an entry of the download directory, when the open file is there. -/
theorem receive_downloading (ticket total limit : Nat) (status : Status) {events : List StreamEvent}
    (alone : ∀ actions, StreamEvent.interference actions ∉ events)
    (ready : world.Ready directories base)
    (own : ∀ location, world.disk.identityAt? location = some status.handle.identity →
      directories.InDownloads base location) :
    (downloading directories base).Step world
      (receive ticket total limit status events world).2 := by
  induction events generalizing status world with
  | nil => exact .refl ready
  | cons event events ih =>
      have rest : ∀ actions, StreamEvent.interference actions ∉ events :=
        fun actions listed => alone actions (List.mem_cons_of_mem _ listed)
      cases event with
      | failure error => exact .refl ready
      | crash => exact .refl ready
      | interference actions => exact absurd List.mem_cons_self (alone actions)
      | chunk bytes =>
          rw [receive]
          dsimp only
          split
          · exact Job.Within.bind (log_downloading _ _) (fun _ => .fail_bind _ _) world ready
          · have written := step_setDisk ready (.write ready.plain status.handle bytes own)
            obtain ⟨told, after, ran, disk, -⟩ := report_run ticket total
              (status.downloaded + bytes.length) status.told
              (world.setDisk (world.disk.write status.handle bytes).2)
            have reported := report_within Effect.tell_downloading ticket total
              (status.downloaded + bytes.length) status.told _ written.holds
            rw [ran] at reported
            rw [World.setDisk] at ran
            simp only [Failing.bind_run, Failing.get_run, Failing.set_run, Failing.lift_run, ran]
            refine (written.trans reported).trans (ih _ rest reported.holds fun location found => ?_)
            rw [disk, World.disk_setDisk, identityAt?_write] at found
            exact own location found

/-- The staging file is an entry of the download directory. -/
theorem stage_downloading {name : String} (isName : Path.isName name = true)
    (ticket total limit : Nat) {events : List StreamEvent}
    (alone : ∀ actions, StreamEvent.interference actions ∉ events) :
    (stage ticket total limit (Slot.named directories.downloads name) events).Within
      (downloading directories base) := by
  intro world ready
  simp only [stage, Failing.bind_run, Failing.get_run]
  cases created : world.disk.createNew (Slot.named directories.downloads name).staging with
  | error error => exact .refl ready
  | ok made =>
      obtain ⟨handle, disk⟩ := made
      obtain ⟨location, names, vacant, rfl, rfl⟩ := createNew_eq_ok created
      have stagingNamed := Slot.isName_staging isName
      have place := names.eq_destination ready.plain.linkFree
      rw [Slot.named, destination_join _ _ stagingNamed, ready.workingDirectory] at place
      have held := names.isDirectoryAt
      subst place
      rw [List.dropLast_concat] at held
      have put := step_setDisk ready
        (.makeFile ready.plain stagingNamed vacant held ⟨_, rfl⟩ fileMode [])
      have some_ : placeOf base directories.downloads ++ [name ++ stagingSuffix] ≠ [] := by simp
      have received := receive_downloading ticket total limit
        ⟨0, none, ⟨world.disk.freshIdentity, 0⟩⟩ alone put.holds fun location found =>
          ⟨_, ready.plain.eq_of_fresh some_ found⟩
      have rest : (downloading directories base).Step _ ((do
          let downloaded ← receive ticket total limit ⟨0, none, ⟨world.disk.freshIdentity, 0⟩⟩ events
          log .debug s!"Staged {downloaded} bytes at {(Slot.named directories.downloads name).staging}"
          return downloaded : Job DownloadError Nat) _).2 :=
        Job.Within.step_bind received fun downloaded => .bind (log_downloading _ _) fun _ => .pure _
      exact put.trans rest

theorem commit_downloading {name : String} (isName : Path.isName name = true) (ticket : Nat)
    (update : Update) : (commit ticket (Slot.named directories.downloads name) update).Within
      (downloading directories base) := by
  rw [commit]
  split
  · exact .bind (log_downloading _ _) fun _ => .fail_bind _ _
  · refine .bind (.lift (Effect.tell_downloading _ _)) fun _ =>
      .bind (log_downloading _ _) fun _ => ?_
    intro world ready
    have verified := Digest.verify_within Effect.downloading_logs
      (Slot.named directories.downloads name).staging update.checksum world ready
    rw [Failing.bind_run, Failing.lift_run]
    cases held : (Digest.verify (Slot.named directories.downloads name).staging update.checksum
        world).1 with
    | false =>
        refine verified.trans (Job.Within.bind (log_downloading _ _) (fun _ => ?_) _ verified.holds)
        exact .fail_bind _ _
    | true =>
        obtain ⟨bytes, read, same⟩ := Digest.readFile_of_verify held
        rw [same]
        refine Job.Within.step_bind (Slot.promote_downloading isName ready read) fun promoted => ?_
        cases promoted with
        | ok done => exact .pure _
        | error error => exact .fail _

/-- What follows the opening of a stream may use that nobody else acts while it comes. -/
theorem openStream_downloading_bind {url : String}
    {next : Option Nat × List StreamEvent → Job DownloadError α}
    (late : ∀ length events, (∀ actions, StreamEvent.interference actions ∉ events) →
      (next (length, events)).Within (downloading directories base)) :
    (openStream url >>= next).Within (downloading directories base) := by
  intro world ready
  have alone := ready.alone.stream world.requests url
  have asked : (downloading directories base).Step world (world.asked url) := by
    refine step_of_disk ready ?_ rfl rfl rfl rfl
    rw [World.disk_asked, alone.opening]
    rfl
  rw [openStream]
  simp only [Failing.bind_run, Failing.lift_run, Effect.openStream_run]
  cases replied : (world.network.stream world.requests url).reply with
  | opened length events =>
      exact asked.trans (late length events (alone.streaming _ _ replied) _ asked.holds)
  | failure error => exact asked
  | crash => exact asked

/-- What follows once a stream was opened. -/
theorem opened_downloading {name : String} (isName : Path.isName name = true) (ticket limit : Nat)
    (update : Update) (length : Option Nat) {events : List StreamEvent}
    (alone : ∀ actions, StreamEvent.interference actions ∉ events) :
    Job.Within (downloading directories base) (do
      let size ← discardingOnFailure (Slot.named directories.downloads name)
        (stage ticket (totalOf length update) limit (Slot.named directories.downloads name) events)
      discardingOnFailure (Slot.named directories.downloads name)
        (commit ticket (Slot.named directories.downloads name) update)
      log .info ("Update " ++ update.version ++ " verified and committed: " ++
        (Slot.named directories.downloads name).committed)
      return (⟨(Slot.named directories.downloads name).committed, update.version,
        update.checksum, size⟩ : Artifact)) :=
  have discards := Slot.discardStaging_downloading isName
  .bind (discardingOnFailure_within discards (stage_downloading isName ticket _ _ alone)) fun _ =>
    .bind (discardingOnFailure_within discards (commit_downloading isName ticket update)) fun _ =>
      .bind (log_downloading _ _) fun _ => .pure _

theorem run_downloading {config : DownloadConfig} (keeps : config.directory = directories.downloads)
    (ticket : Nat) (update : Update) :
    (run config ticket update).Within (downloading directories base) := by
  rw [run]
  split
  · exact .bind (log_downloading _ _) fun _ => .fail_bind _ _
  · rw [keeps]
    cases found : Slot.ofVersion directories.downloads config.namePrefix update.version with
    | error error => exact .fail _
    | ok slot =>
        obtain ⟨name, isName, rfl⟩ := Slot.ofVersion_eq_ok found
        rw [Job.ofExcept_ok, pure_bind]
        refine .bind (.lift Effect.makeDirectories_downloading) fun made => ?_
        cases made with
        | error error => exact .fail _
        | ok done =>
            refine .bind (Slot.reset_downloading isName) fun _ =>
              .bind (log_downloading _ _) fun _ => ?_
            refine openStream_downloading_bind fun length events alone => ?_
            have rest : Job.Within (downloading directories base) _ :=
              opened_downloading isName ticket config.limit.toNat update length alone
            dsimp only
            split
            · split
              · exact .bind (log_downloading _ _) fun _ => .fail_bind _ _
              · exact rest
            · exact rest

end Transfer

/-! ## Cleanups -/

namespace Cleanup

/-- Files with names in the download directory are removed. -/
theorem removeFiles_downloading (report : CleanupReport) {paths : List Path}
    (named : ∀ path ∈ paths, ∃ name, Path.isName name = true ∧
      path = Path.join directories.downloads name) :
    (removeFiles report paths).Within (downloading directories base) := by
  refine removeFiles_within Effect.downloading_logs report fun path listed => ?_
  obtain ⟨name, isName, rfl⟩ := named path listed
  exact Effect.removeFile_downloading isName

theorem run_downloading {arrange : List Path → List Path} (among : ∀ paths, arrange paths ⊆ paths) :
    (run arrange directories.downloads).Within (downloading directories base) := by
  refine Job.Within.get_bind fun world ready => ?_
  cases listed : world.disk.list directories.downloads with
  | error error =>
      cases error with
      | notFound => exact .refl ready
      | _ => exact .refl ready
  | ok paths =>
      refine removeFiles_downloading _ (fun path member => ?_) world ready
      have inside := among paths member
      rw [Disk.list] at listed
      obtain ⟨location, located, listed⟩ := bind_eq_ok_iff.mp listed
      by_cases held : world.disk.isDirectoryAt location = true
      · simp only [held, Bool.not_true, Bool.false_eq_true, if_false, pure_eq_ok, Except.ok.injEq]
          at listed
        rw [← listed, List.mem_map] at inside
        obtain ⟨name, child, rfl⟩ := inside
        exact ⟨name, ready.plain.named _ _ (mem_children_iff.mp child), rfl⟩
      · simp [held] at listed

end Cleanup

/-! ## Downloaders -/

namespace Downloader

variable {downloader : Downloader}

/-- A downloader with a download directory, which cleans what it finds there. -/
structure WorksIn (directory : Path) (downloader : Downloader) : Prop where
  directory : downloader.config.directory = directory
  among : ∀ paths, downloader.arrange paths ⊆ paths

theorem run_downloading (works : downloader.WorksIn directories.downloads) (ticket : Nat)
    (job : DownloadJob) : (downloader.run ticket job).Within (downloading directories base) := by
  cases job with
  | fetch update => exact .map _ (Transfer.run_downloading works.directory ticket update)
  | clean =>
      rw [run, works.directory]
      exact .map _ (Cleanup.run_downloading works.among)

theorem runJob_downloading (works : downloader.WorksIn directories.downloads)
    {note : DownloadOutput → Effect Unit}
    (notes : ∀ output, (note output).Within (downloading directories base)) (ticket : Nat)
    (job : DownloadJob) :
    (downloader.runJob note ticket job).Within (downloading directories base) := by
  refine .bind (Effect.outputOf_within Effect.downloading_logs _ (run_downloading works ticket job))
    fun output => ?_
  rcases output with _ | error | done
  · exact .bind (.pure _) fun _ => .pure _
  · exact .bind (.pure _) fun _ => .pure _
  · exact .bind (notes done) fun _ => .pure _

theorem settle_downloading (works : downloader.WorksIn directories.downloads)
    {note : DownloadOutput → Effect Unit}
    (notes : ∀ output, (note output).Within (downloading directories base)) :
    (downloader.settle note).Within (downloading directories base) :=
  .bind (Worker.settle_within (runJob_downloading works notes) downloader.worker) fun _ => .pure _

end Downloader

end SelfUpdate
