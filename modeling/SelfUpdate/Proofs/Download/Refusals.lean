import SelfUpdate.Downloader
import SelfUpdate.Proofs.Release.Records

/-!
# Updates are not refused

The downloader looks at the address and at the checksum of an update again, before it asks for the
stream and before it verifies the file. An update passed those tests when it was made, so no download
fails by them.
-/

namespace SelfUpdate

variable {ε α β : Type}

/-! ## Errors that do not occur -/

namespace Job

/-- A job that does not fail with certain errors, wherever it runs. -/
def Avoids (bad : ε → Prop) (job : Job ε α) : Prop :=
  ∀ (world : World) (error : ε), (job world).1 = .error (.failure error) → ¬ bad error

namespace Avoids

variable {bad : ε → Prop}

theorem pure (a : α) : Avoids bad (Pure.pure a : Job ε α) := nofun

theorem get : Avoids bad (MonadState.get : Job ε World) := nofun

theorem set (world : World) : Avoids bad (MonadState.set world : Job ε PUnit) := nofun

theorem lift (effect : Effect α) : Avoids bad (liftM effect : Job ε α) := nofun

theorem crash : Avoids bad (throw .crash : Job ε α) := nofun

theorem fail {error : ε} (good : ¬ bad error) : Avoids bad (Job.fail error : Job ε α) := by
  intro world other failed
  cases failed
  exact good

theorem ofExcept {δ : Type} {wrap : δ → ε} {result : Except δ α}
    (good : ∀ error, result = .error error → ¬ bad (wrap error)) :
    Avoids bad (Job.ofExcept wrap result) := by
  cases result with
  | ok a => exact pure a
  | error error => exact fail (good error rfl)

theorem bind {first : Job ε α} {next : α → Job ε β} (early : Avoids bad first)
    (late : ∀ a, Avoids bad (next a)) : Avoids bad (first >>= next) := by
  intro world error failed
  rw [Failing.bind_run] at failed
  cases ran : (first world).1 with
  | ok a =>
      rw [ran] at failed
      exact late a _ error failed
  | error halt =>
      rw [ran] at failed
      cases failed
      exact early world error ran

theorem map (f : α → β) {job : Job ε α} (avoids : Avoids bad job) : Avoids bad (f <$> job) := by
  rw [map_eq_pure_bind]
  exact bind avoids fun a => pure (f a)

/-- What would follow a failure does not matter. -/
theorem fail_bind {error : ε} {next : α → Job ε β} (good : ¬ bad error) :
    Avoids bad (Job.fail error >>= next) := by
  rw [Job.fail_bind]
  exact fail good

end Avoids

end Job

/-- The errors by which an update itself is refused. -/
inductive DownloadError.Refuses : DownloadError → Prop where
  | insecure (url : String) : Refuses (.insecureUrl url)
  | unverifiable (version : String) : Refuses (.checksumMissing version)

/-- The errors with which no transfer fails: those by which an update is refused, and those of a
worker. -/
inductive DownloadError.Foreign : DownloadError → Prop where
  | insecure (url : String) : Foreign (.insecureUrl url)
  | unverifiable (version : String) : Foreign (.checksumMissing version)
  | unworked (reason : WorkerError) : Foreign (.worker reason)

theorem DownloadError.Refuses.foreign {error : DownloadError} (refuses : error.Refuses) :
    error.Foreign := by
  cases refuses with
  | insecure url => exact .insecure url
  | unverifiable version => exact .unverifiable version

open DownloadError (Foreign)
open Job (Avoids)

/-! ## Slots -/

namespace Slot

theorem removePrevious_avoids (path : Path) : (removePrevious path).Avoids Foreign := by
  refine .bind (.lift _) fun removed => ?_
  cases removed with
  | ok done => exact .lift _
  | error error =>
      cases error with
      | notFound => exact .pure ()
      | _ => exact .fail nofun

theorem reset_avoids (slot : Slot) : slot.reset.Avoids Foreign :=
  .bind (removePrevious_avoids _) fun _ => removePrevious_avoids _

theorem ofVersion_avoids (directory : Path) (namePrefix version : String) :
    (Job.ofExcept id (ofVersion directory namePrefix version)).Avoids Foreign := by
  refine .ofExcept fun error refused => ?_
  rw [ofVersion] at refused
  split at refused
  · cases refused
  · cases refused
    nofun

end Slot

/-! ## Transfers -/

namespace Transfer

variable {update : Update}

theorem receive_avoids (ticket total limit : Nat) (status : Status) (events : List StreamEvent) :
    (receive ticket total limit status events).Avoids Foreign := by
  induction events generalizing status with
  | nil => exact .pure _
  | cons event events ih =>
      cases event with
      | failure error => exact .fail nofun
      | crash => exact .crash
      | interference actions => exact .bind (.lift _) fun _ => ih status
      | chunk bytes =>
          rw [receive]
          dsimp only
          split
          · exact .bind (.lift _) fun _ => .fail_bind nofun
          · exact .bind .get fun world => .bind (.set _) fun _ => .bind (.lift _) fun _ => ih _

theorem stage_avoids (ticket total limit : Nat) (slot : Slot) (events : List StreamEvent) :
    (stage ticket total limit slot events).Avoids Foreign := by
  refine .bind .get fun world => ?_
  cases world.disk.createNew slot.staging with
  | error error => exact .fail nofun
  | ok created =>
      exact .bind (.set _) fun _ => .bind (receive_avoids _ _ _ _ _) fun _ =>
        .bind (.lift _) fun _ => .pure _

/-- Discarding the staging file changes nothing in how a step fails. -/
theorem discardingOnFailure_avoids (slot : Slot) {step : Job DownloadError α}
    (avoids : step.Avoids Foreign) : (discardingOnFailure slot step).Avoids Foreign := by
  intro world error failed
  refine avoids world error ?_
  rw [← failed]
  change (step.run world).1 = _
  rw [discardingOnFailure]
  change _ = ((step.run >>= _) world).1
  rw [Stateful.bind_run]
  rcases (step.run world).1 with (_ | _) | _ <;> rfl

theorem commit_avoids (listed : update.checksum.isEmpty = false) (ticket : Nat) (slot : Slot) :
    (commit ticket slot update).Avoids Foreign := by
  rw [commit, if_neg (by simp [listed])]
  refine .bind (.lift _) fun _ => .bind (.lift _) fun _ => .bind (.lift _) fun verified => ?_
  split
  · exact .bind (.lift _) fun _ => .fail_bind nofun
  · refine .bind (.lift _) fun promoted => ?_
    cases promoted with
    | ok done => exact .pure _
    | error error => exact .fail nofun

theorem openStream_avoids (url : String) : (openStream url).Avoids Foreign := by
  refine .bind (.lift _) fun reply => ?_
  cases reply with
  | opened length events => exact .pure _
  | failure error => exact .fail nofun
  | crash => exact .crash

theorem run_avoids (checked : update.Checked) (config : DownloadConfig) (ticket : Nat) :
    (run config ticket update).Avoids Foreign := by
  have listed : update.checksum.isEmpty = false := by
    rw [Bool.eq_false_iff, ne_eq, String.isEmpty_iff]
    intro nothing
    have length := checked.checksum_length
    rw [nothing] at length
    cases length
  rw [run, if_neg (by simp [checked.url])]
  refine .bind (Slot.ofVersion_avoids _ _ _) fun slot => .bind (.lift _) fun made => ?_
  cases made with
  | error error => exact .fail nofun
  | ok done =>
      refine .bind slot.reset_avoids fun _ => .bind (.lift _) fun _ => ?_
      refine .bind (openStream_avoids _) fun (length, events) => ?_
      have kept := Avoids.bind (discardingOnFailure_avoids slot (stage_avoids ticket
        (totalOf length update) config.limit.toNat slot events)) fun size =>
          .bind (discardingOnFailure_avoids slot (commit_avoids listed ticket slot)) fun _ =>
            .bind (.lift (Effect.log .info .downloader ("Update " ++ update.version ++
              " verified and committed: " ++ slot.committed))) fun _ =>
                .pure (⟨slot.committed, update.version, update.checksum, size⟩ : Artifact)
      dsimp only
      split
      · split
        · exact .bind (.lift _) fun _ => .fail_bind nofun
        · exact kept
      · exact kept

end Transfer

namespace Downloader

/-- Has a downloader fetch an update, while others have it do more. -/
def fetch (downloader : Downloader) (note : DownloadOutput → Effect Unit) (update : Update)
    (others : List DownloadJob) : Effect (Except DownloadError DownloadOutput) := do
  let settled ← (others.foldl submit (downloader.submit (.fetch update))).settle note
  return settled.result downloader.worker.next

variable {downloader : Downloader} {update : Update} {error : DownloadError}

/-- What a job answers is how its effects end. -/
theorem outputOf_runJob (downloader : Downloader) (note : DownloadOutput → Effect Unit)
    (ticket : Nat) (job : DownloadJob) (world : World) :
    (downloader.runJob note ticket job world).1 =
      (Effect.outputOf name (downloader.run ticket job) world).1 := by
  rw [runJob, Stateful.bind_run]
  rcases (Effect.outputOf name (downloader.run ticket job) world).1 with _ | _ | _ <;> rfl

/-- A job answers no error that it does not fail with. -/
theorem runJob_avoids {bad : DownloadError → Prop} {note : DownloadOutput → Effect Unit}
    {ticket : Nat} {job : DownloadJob} {world : World}
    (avoids : (downloader.run ticket job).Avoids bad)
    (failed : (downloader.runJob note ticket job world).1 = some (.error error)) : ¬ bad error := by
  refine avoids world error ?_
  rw [outputOf_runJob, Effect.outputOf, Stateful.bind_run] at failed
  change ((downloader.run ticket job).run world).1 = _
  generalize (downloader.run ticket job).run world = ended at failed ⊢
  obtain ⟨(other | _) | output, later⟩ := ended
  · cases failed
    rfl
  · cases failed
  · cases failed

theorem runJob_not_refuses (checked : update.Checked) (downloader : Downloader)
    (note : DownloadOutput → Effect Unit) (ticket : Nat) (world : World)
    (failed : (downloader.runJob note ticket (.fetch update) world).1 = some (.error error)) :
    ¬ error.Refuses := by
  have avoids : (downloader.run ticket (.fetch update)).Avoids Foreign :=
    (Transfer.run_avoids checked downloader.config ticket).map _
  exact fun refuses => runJob_avoids avoids failed refuses.foreign

theorem foldl_submit (downloader : Downloader) (jobs : List DownloadJob) :
    jobs.foldl submit downloader =
      { downloader with worker := jobs.foldl Worker.submit downloader.worker } := by
  induction jobs generalizing downloader with
  | nil => rfl
  | cons job jobs ih => exact ih (downloader.submit job)

/-- A fetch is answered by the worker, or not at all when the worker is gone. -/
theorem fetch_run (downloader : Downloader) (note : DownloadOutput → Effect Unit) (update : Update)
    (others : List DownloadJob) (world : World) :
    (downloader.fetch note update others world).1 =
      match (Worker.settle (downloader.runJob note)
        (others.foldl Worker.submit (downloader.worker.submit (.fetch update))) world).1.answer?
          downloader.worker.next with
      | some (.ok result) => result
      | some (.error error) => .error (.worker error)
      | none => .error (.worker (.aborted name)) := by
  rw [fetch, foldl_submit]
  rfl

/-- A downloader does not refuse an update that was checked. -/
theorem fetch_not_refuses (orderly : downloader.worker.Orderly) (checked : update.Checked)
    (note : DownloadOutput → Effect Unit) (others : List DownloadJob) (world : World)
    (failed : (downloader.fetch note update others world).1 = .error error) :
    ¬ error.Refuses := by
  rw [fetch_run] at failed
  cases accepting : downloader.worker.accepting with
  | false =>
      rw [Worker.answer?_refused orderly accepting] at failed
      cases failed
      rintro ⟨⟩
  | true =>
      rw [Worker.answer?_accepted orderly accepting] at failed
      generalize (Worker.settle (downloader.runJob note) downloader.worker world).2 = before
        at failed
      cases ran : (downloader.runJob note downloader.worker.next (.fetch update) before).1 with
      | none =>
          rw [ran] at failed
          cases failed
          rintro ⟨⟩
      | some result =>
          rw [ran] at failed
          cases failed
          exact runJob_not_refuses checked downloader note _ before ran

end Downloader

/-- No update is unchecked. However it comes about, its checksum has sixty-four hexadecimal digits in
lowercase, its address is secure, its version is not blank, and the address of its signature, if
there is one, is not empty. So no downloader ever refuses it for its address or for want of a
checksum, whatever the directory, the network and the disk are like, and whatever else the downloader
has to do. -/
theorem Update.Obtained.never_refused {update : Update} (obtained : update.Obtained) :
    update.Checked ∧
      ∀ (downloader : Downloader), downloader.worker.Orderly →
        ∀ (note : DownloadOutput → Effect Unit) (others : List DownloadJob) (world : World),
          (∀ url, (downloader.fetch note update others world).1 ≠ .error (.insecureUrl url)) ∧
          ∀ version, (downloader.fetch note update others world).1 ≠
            .error (.checksumMissing version) := by
  refine ⟨obtained.checked, fun downloader orderly note others world => ⟨?_, ?_⟩⟩
  · intro url failed
    exact Downloader.fetch_not_refuses orderly obtained.checked note others world failed
      (.insecure url)
  · intro version failed
    exact Downloader.fetch_not_refuses orderly obtained.checked note others world failed
      (.unverifiable version)

/-- The update that a check reports is fetched without being refused. -/
theorem Update.never_refused_tagged :
    ∃ update, (Checker.check Checker.idleChecker ⟨"https://e", 1⟩ []
          (Checker.worldWith (Checker.announcing (.body Checker.listed)))).1 =
            .ok (.updateAvailable update) ∧
      update.Checked ∧
      ∀ (note : DownloadOutput → Effect Unit) (world : World),
        (∀ url, ((⟨⟨"updates", "a", 1⟩, id, .new Downloader.name⟩ : Downloader).fetch note update []
          world).1 ≠ .error (.insecureUrl url)) ∧
        ∀ version, ((⟨⟨"updates", "a", 1⟩, id, .new Downloader.name⟩ : Downloader).fetch note update []
          world).1 ≠ .error (.checksumMissing version) := by
  obtain ⟨update, reported⟩ := Checker.reported_tagged
  obtain ⟨checked, fetched⟩ := Update.Obtained.never_refused (.reported (.new Checker.name) reported)
  exact ⟨update, reported, checked, fun note world => fetched _ (.new Downloader.name) note [] world⟩

end SelfUpdate
