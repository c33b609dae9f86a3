import SelfUpdate.Downloader
import SelfUpdate.Proofs.Download.Frames
import SelfUpdate.Proofs.Requests

/-!
# What downloads ask of the network

A download asks for one stream at most, and that at a secure address. A cleanup asks for nothing.
-/

namespace SelfUpdate

namespace Slot

open Job.Silent

theorem reset_silent (slot : Slot) : slot.reset.Silent :=
  of_within (slot.reset_within Frame.silent_loose)

end Slot

namespace Transfer

open Job.Silent

variable {α : Type} {slot : Slot} {update : Update}

theorem log_silent (level : Log.Level) (text : String) : (log level text).Silent :=
  of_within (log_within Frame.silent_loose.logs level text)

theorem report_silent (ticket total downloaded : Nat) (told : Option Nat) :
    (report ticket total downloaded told).Silent := by
  have tells (ticket : Nat) (event : Progress) : (Effect.tell ticket event).Within .silent :=
    fun world _ => ⟨Effect.tell_silent ticket event world, trivial⟩
  exact .of_within (report_within tells ticket total downloaded told)

theorem receive_silent (ticket total limit : Nat) (status : Status) (events : List StreamEvent) :
    (receive ticket total limit status events).Silent := by
  induction events generalizing status with
  | nil => exact pure _
  | cons event events ih =>
      cases event with
      | failure error => exact fail _
      | crash => exact crash
      | interference actions => exact bind (lift (Effect.interfere_silent _)) fun _ => ih status
      | chunk bytes =>
          rw [receive]
          dsimp only
          split
          · refine bind (lift (Effect.log_silent _ _ _)) fun _ => ?_
            rw [Job.fail_bind]
            exact fail _
          · intro world
            have written := Effect.setDisk_queried world (world.disk.write status.handle bytes).2
            simp only [Failing.bind_run, Failing.get_run, Failing.set_run, Failing.lift_run]
            exact written.trans ((report_silent _ _ _ _ _).trans (ih _ _))

theorem discardingOnFailure_silent (slot : Slot) {step : Job DownloadError α}
    (silent : step.Silent) : (discardingOnFailure slot step).Silent :=
  of_within (discardingOnFailure_within (slot.discardStaging_within Frame.silent_loose)
    fun world _ => ⟨silent world, trivial⟩)

theorem stage_silent (ticket total limit : Nat) (slot : Slot) (events : List StreamEvent) :
    (stage ticket total limit slot events).Silent := by
  intro world
  simp only [stage, Failing.bind_run, Failing.get_run]
  cases world.disk.createNew slot.staging with
  | error error => exact .refl world
  | ok created =>
      have made := Effect.setDisk_queried world created.2
      have rest : (do
          let downloaded ← receive ticket total limit ⟨0, none, created.1⟩ events
          log .debug s!"Staged {downloaded} bytes at {slot.staging}"
          return downloaded).Silent :=
        bind (receive_silent _ _ _ _ _) fun _ =>
          bind (lift (Effect.log_silent _ _ _)) fun _ => pure _
      exact made.trans (rest _)

theorem commit_silent (ticket : Nat) (slot : Slot) (update : Update) :
    (commit ticket slot update).Silent := by
  rw [commit]
  split
  · refine bind (log_silent _ _) fun _ => ?_
    rw [Job.fail_bind]
    exact fail _
  · refine bind (lift (Effect.tell_silent _ _)) fun _ => bind (log_silent _ _) fun _ => ?_
    have verified := Digest.verify_within Frame.silent_loose.logs
    refine bind (of_within (.lift (verified _ _))) fun verified => ?_
    split
    · refine bind (log_silent _ _) fun _ => ?_
      rw [Job.fail_bind]
      exact fail _
    · refine bind (lift (Effect.ofStep_silent _)) fun promoted => ?_
      cases promoted with
      | ok done => exact pure _
      | error error => exact fail _

theorem openStream_asksOnce (url : String) : (openStream url).AsksOnce (.stream url) := by
  have asked : Job.AsksOnce (.stream url)
      (liftM (Effect.openStream url) : Job DownloadError StreamReply) :=
    fun _ => .inr ⟨rfl, rfl, rfl, rfl, rfl, rfl⟩
  refine .bind asked fun reply => ?_
  cases reply with
  | opened length events => exact pure _
  | failure error => exact fail _
  | crash => exact crash

/-- What follows once the stream was opened. -/
theorem opened_silent (config : DownloadConfig) (ticket : Nat) (update : Update) (slot : Slot)
    (length : Option Nat) (events : List StreamEvent) :
    (do
      let limit := config.limit.toNat
      match length with
      | some length =>
        if length > limit then
          log .warn s!"Update artifact too large: {length} bytes"
          Job.fail (.tooLarge length limit)
      | none => Pure.pure ()
      let size ← discardingOnFailure slot (stage ticket (totalOf length update) limit slot events)
      discardingOnFailure slot (commit ticket slot update)
      log .info ("Update " ++ update.version ++ " verified and committed: " ++ slot.committed)
      return (⟨slot.committed, update.version, update.checksum, size⟩ : Artifact)).Silent := by
  have kept := bind (discardingOnFailure_silent slot (stage_silent ticket
    (totalOf length update) config.limit.toNat slot events)) fun size =>
      bind (discardingOnFailure_silent slot (commit_silent ticket slot update)) fun _ =>
        bind (log_silent .info ("Update " ++ update.version ++ " verified and committed: " ++
          slot.committed)) fun _ => pure (⟨slot.committed, update.version, update.checksum, size⟩ : Artifact)
  dsimp only
  split
  · split
    · refine bind (log_silent _ _) fun _ => ?_
      rw [Job.fail_bind]
      exact fail _
    · exact kept
  · exact kept

/-- A transfer asks for its stream once, and only at a secure address, or does not succeed. -/
theorem run_asks (config : DownloadConfig) (ticket : Nat) (update : Update) (world : World) :
    world.Queried [] (run config ticket update world).2 ∧
        (∃ halt, (run config ticket update world).1 = .error halt) ∨
      Url.isSecure update.url = true ∧
        world.Queried [.stream update.url] (run config ticket update world).2 := by
  rw [run]
  split
  · refine .inl ⟨bind (log_silent _ _) (fun _ => ?_) world, _, rfl⟩
    rw [Job.fail_bind]
    exact fail _
  · rename_i insecure
    have secure : Url.isSecure update.url = true := by simpa using insecure
    refine Or.imp_right (⟨secure, ·⟩) (Job.AsksOnce.bind_silent (ofExcept _ _) (fun slot => ?_) world)
    refine .bind_silent (lift (Effect.ofSteps_silent _)) fun made => ?_
    cases made with
    | error error => exact .fail _
    | ok done =>
        refine .bind_silent slot.reset_silent fun _ => .bind_silent (log_silent _ _) fun _ => ?_
        exact .bind (openStream_asksOnce _) fun opened => opened_silent _ _ _ _ _ _

end Transfer

namespace Cleanup

open Job.Silent

theorem removeFiles_silent (report : CleanupReport) (paths : List Path) :
    (removeFiles report paths).Silent :=
  .of_within (removeFiles_within Frame.silent_loose.logs report fun _ _ =>
    Frame.silent_loose.ofStep _)

theorem run_silent (arrange : List Path → List Path) (directory : Path) :
    (run arrange directory).Silent := by
  refine bind get fun world => ?_
  cases world.disk.list directory with
  | ok paths => exact lift (removeFiles_silent _ _)
  | error error =>
      cases error with
      | notFound => exact pure _
      | _ => exact fail _

end Cleanup

namespace Downloader

variable {downloader : Downloader} {note : DownloadOutput → Effect Unit}

/-- What a job may ask for. -/
def Asks (job : DownloadJob) (asked : List Request) : Prop :=
  asked = [] ∨ ∃ update, job = .fetch update ∧ Url.isSecure update.url = true ∧
    asked = [.stream update.url]

theorem run_asks (downloader : Downloader) (ticket : Nat) (job : DownloadJob) (world : World) :
    ∃ asked, Asks job asked ∧ world.Queried asked (downloader.run ticket job world).2 := by
  cases job with
  | clean =>
      rw [run, Failing.map_run]
      exact ⟨[], .inl rfl, Cleanup.run_silent _ _ world⟩
  | fetch update =>
      rw [run, Failing.map_run]
      rcases Transfer.run_asks downloader.config ticket update world with
        ⟨nothing, -⟩ | ⟨secure, once⟩
      · exact ⟨[], .inl rfl, nothing⟩
      · exact ⟨_, .inr ⟨update, rfl, secure, rfl⟩, once⟩

/-- A job asks for the stream of the update that it fetches, or for nothing. -/
theorem runJob_asks (silent : ∀ output, (note output).Silent) (ticket : Nat) (job : DownloadJob)
    (world : World) :
    ∃ asked, Asks job asked ∧ world.Queried asked (downloader.runJob note ticket job world).2 := by
  obtain ⟨asked, asks, queried⟩ := run_asks downloader ticket job world
  have output := queried.trans (Effect.outputOf_queried name (downloader.run ticket job) world)
  refine ⟨asked, asks, ?_⟩
  rw [runJob, Stateful.bind_run]
  generalize Effect.outputOf name (downloader.run ticket job) world = ended at output ⊢
  obtain ⟨(_ | error | done), later⟩ := ended
  · simpa using output
  · simpa using output
  · simpa using output.trans (silent done later)

/-- What a job answers when it asks for an update, or does not succeed. -/
theorem runJob_fetch_asks (silent : ∀ output, (note output).Silent) (ticket : Nat) (update : Update)
    (world : World) :
    let ran := downloader.runJob note ticket (.fetch update) world
    world.Queried [] ran.2 ∧ (∀ output, ran.1 ≠ some (.ok output)) ∨
      world.Queried [.stream update.url] ran.2 := by
  dsimp only
  have output := Effect.outputOf_queried name (downloader.run ticket (.fetch update)) world
  have asks := Transfer.run_asks downloader.config ticket update world
  rw [runJob, Stateful.bind_run]
  rw [Effect.outputOf, Stateful.bind_run] at output ⊢
  rw [show (downloader.run ticket (.fetch update)).run world =
    downloader.run ticket (.fetch update) world from rfl] at output ⊢
  rw [run, Failing.map_run] at output ⊢
  generalize Transfer.run downloader.config ticket update world = ran at asks output ⊢
  obtain ⟨(error | _) | artifact, after⟩ := ran
  · refine asks.imp (fun early => ⟨early.1.trans output, ?_⟩) fun late => late.2.trans output
    rintro _ ⟨⟩
  · refine asks.imp (fun early => ⟨early.1.trans output, ?_⟩) fun late => late.2.trans output
    rintro _ ⟨⟩
  · rcases asks with ⟨-, halt, failed⟩ | ⟨-, once⟩
    · cases failed
    · exact .inr ((once.trans output).trans (silent _ _))

end Downloader

end SelfUpdate
