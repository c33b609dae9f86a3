import SelfUpdate.Download.Transfer
import SelfUpdate.Proofs.World

/-!
# The stages of a transfer

A transfer goes through stages, and one step leads from each stage to the next. Between two steps
others may act, and whoever looks at the disk then finds it as the last step left it. Taking all steps
is the same as running the transfer.
-/

namespace SelfUpdate.Transfer

/-- How far a transfer has come. -/
inductive Stage where
  | begun
  /-- The directory is there. -/
  | ready (slot : Slot)
  /-- There is no staging file. -/
  | halfEmptied (slot : Slot)
  /-- There is no committed file either. -/
  | emptied (slot : Slot)
  /-- The stream is open. -/
  | opened (slot : Slot) (total : Nat) (events : List StreamEvent)
  | streaming (slot : Slot) (total : Nat) (status : Status) (events : List StreamEvent)
  /-- The stream has ended. -/
  | received (slot : Slot) (size : Nat)
  /-- The digest of the staging file was found right. -/
  | verified (slot : Slot) (size : Nat)
  /-- The staging file is still to be discarded. -/
  | failing (slot : Slot) (error : DownloadError)
  | ended (result : Except (Halt DownloadError) Artifact)

/-! ## Steps -/

/-- A job that leads to a stage. When it fails the transfer has ended. -/
def ending (job : Job DownloadError Stage) : Effect Stage := do
  match ← job.run with
  | .ok stage => return stage
  | .error halt => return .ended (.error halt)

/-- A job that leads to a stage. When it fails the staging file is discarded next. -/
def discarding (slot : Slot) (job : Job DownloadError Stage) : Effect Stage := do
  match ← job.run with
  | .ok stage => return stage
  | .error (.failure error) => return .failing slot error
  | .error .crash => return .ended (.error .crash)

/-- Makes the directory of the slot. -/
def prepare (config : DownloadConfig) (update : Update) : Job DownloadError Slot := do
  if !Url.isSecure update.url then
    log .warn ("Download URL is not https, refusing: " ++ update.url)
    Job.fail (.insecureUrl update.url)
  let slot ← Job.ofExcept id (Slot.ofVersion config.directory config.namePrefix update.version)
  match ← (Effect.ofSteps (Disk.makeDirectories config.directory) : Job DownloadError _) with
  | .error error => Job.fail (.io .createDirectory config.directory error)
  | .ok () => return slot

/-- Asks for the stream, and refuses one that is announced as too long. -/
def request (limit : Nat) (update : Update) : Job DownloadError (Nat × List StreamEvent) := do
  log .info ("Downloading update " ++ update.version ++ " from " ++ update.url)
  let (length, events) ← openStream update.url
  match length with
  | some length =>
    if length > limit then
      log .warn s!"Update artifact too large: {length} bytes"
      Job.fail (.tooLarge length limit)
  | none => pure ()
  return (totalOf length update, events)

/-- Makes the staging file. -/
def create (slot : Slot) : Job DownloadError Status := do
  let world ← get
  match world.disk.createNew slot.staging with
  | .error error => Job.fail (.io .createStaging slot.staging error)
  | .ok (handle, disk) =>
    set { world with disk := disk }
    return ⟨0, none, handle⟩

/-- Takes in one event of a stream. -/
def take (ticket total limit : Nat) (status : Status) : StreamEvent → Job DownloadError Status
  | .failure error => Job.fail (.transfer error)
  | .crash => throw .crash
  | .interference actions => do
    Effect.interfere actions
    return status
  | .chunk bytes => do
    let downloaded := status.downloaded + bytes.length
    if downloaded > limit then
      log .warn s!"Update artifact exceeded {limit} bytes while streaming"
      Job.fail (.tooLarge downloaded limit)
    let world ← get
    let (handle, disk) := world.disk.write status.handle bytes
    set { world with disk := disk }
    let told ← report ticket total downloaded status.told
    return ⟨downloaded, told, handle⟩

/-- Verifies the staging file. -/
def verify (ticket : Nat) (slot : Slot) (update : Update) : Job DownloadError Unit := do
  if update.checksum.isEmpty then
    log .warn ("No checksum for " ++ update.version ++ "; discarding download")
    Job.fail (.checksumMissing update.version)
  Effect.tell ticket .verifying
  log .debug ("Verifying checksum of " ++ slot.staging)
  if !(← Digest.verify slot.staging update.checksum) then
    log .warn ("Checksum verification failed for " ++ update.version)
    Job.fail (.checksumMismatch update.version update.checksum)

/-- Makes the staging file the committed one. -/
def promote (slot : Slot) : Job DownloadError Unit := do
  match ← (slot.promote : Job DownloadError _) with
  | .ok () => return
  | .error error => Job.fail (.io .commit slot.committed error)

def artifactOf (slot : Slot) (update : Update) (size : Nat) : Artifact :=
  ⟨slot.committed, update.version, update.checksum, size⟩

/-- Says that the artifact is there. -/
def announce (slot : Slot) (update : Update) (size : Nat) : Job DownloadError Artifact := do
  log .info ("Update " ++ update.version ++ " verified and committed: " ++ slot.committed)
  return artifactOf slot update size

section

variable (config : DownloadConfig) (ticket : Nat) (update : Update)

/-- The next stage. -/
def step : Stage → Effect Stage
  | .begun => ending do return .ready (← prepare config update)
  | .ready slot => ending do
    Slot.removePrevious slot.staging
    return .halfEmptied slot
  | .halfEmptied slot => ending do
    Slot.removePrevious slot.committed
    return .emptied slot
  | .emptied slot => ending do
    let (total, events) ← request config.limit.toNat update
    return .opened slot total events
  | .opened slot total events => discarding slot do
    return .streaming slot total (← create slot) events
  | .streaming slot total status (event :: events) => discarding slot do
    return .streaming slot total (← take ticket total config.limit.toNat status event) events
  | .streaming slot _ status [] => discarding slot do
    log .debug s!"Staged {status.downloaded} bytes at {slot.staging}"
    return .received slot status.downloaded
  | .received slot size => discarding slot do
    verify ticket slot update
    return .verified slot size
  | .verified slot size => discarding slot do
    promote slot
    return .ended (.ok (← announce slot update size))
  | .failing slot error => do
    slot.discardStaging
    return .ended (.error (.failure error))
  | .ended result => return .ended result

/-- What is left to do at a stage. -/
def rest : Stage → Job DownloadError Artifact
  | .begun => run config ticket update
  | .ready slot => do
    slot.reset
    fromEmptied slot
  | .halfEmptied slot => do
    Slot.removePrevious slot.committed
    fromEmptied slot
  | .emptied slot => fromEmptied slot
  | .opened slot total events => do
    let size ← discardingOnFailure slot (stage ticket total config.limit.toNat slot events)
    fromReceived slot size
  | .streaming slot total status events => do
    let size ← discardingOnFailure slot do
      let downloaded ← receive ticket total config.limit.toNat status events
      log .debug s!"Staged {downloaded} bytes at {slot.staging}"
      return downloaded
    fromReceived slot size
  | .received slot size => fromReceived slot size
  | .verified slot size => do
    discardingOnFailure slot (promote slot)
    announce slot update size
  | .failing slot error => do
    slot.discardStaging
    Job.fail error
  | .ended result => ExceptT.mk (pure result)
where
  fromReceived (slot : Slot) (size : Nat) : Job DownloadError Artifact := do
    discardingOnFailure slot (commit ticket slot update)
    announce slot update size
  fromEmptied (slot : Slot) : Job DownloadError Artifact := do
    let (total, events) ← request config.limit.toNat update
    let size ← discardingOnFailure slot (stage ticket total config.limit.toNat slot events)
    fromReceived slot size

end

/-! ## Steps and what is left -/

@[simp] theorem log_run (level : Log.Level) (text : String) (world : World) :
    log level text world = (.ok (), (Effect.log level .downloader text world).2) := (rfl)

theorem stage_eq (slot : Slot) (total : Nat) (ticket limit : Nat) (events : List StreamEvent) :
    stage ticket total limit slot events = (do
      let status ← create slot
      let downloaded ← receive ticket total limit status events
      log .debug s!"Staged {downloaded} bytes at {slot.staging}"
      return downloaded) := by
  funext world
  simp only [stage, create, Failing.bind_run, Failing.get_run]
  cases world.disk.createNew slot.staging with
  | error error => rfl
  | ok made => simp

theorem receive_cons (ticket total limit : Nat) (status : Status) (event : StreamEvent)
    (events : List StreamEvent) :
    receive ticket total limit status (event :: events) = (do
      receive ticket total limit (← take ticket total limit status event) events) := by
  funext world
  cases event with
  | chunk bytes => 
      by_cases long : status.downloaded + bytes.length > limit
      · simp [receive, take, long]
      · simp [receive, take, long]
  | failure error => simp [receive, take]
  | crash => simp [receive, take]
  | interference actions => simp [receive, take]

theorem isEmpty_checksum (update : Update) : update.checksum.isEmpty = false := by
  rw [Bool.eq_false_iff, ne_eq, String.isEmpty_iff]
  intro empty
  have canonical := update.checksum_canonical
  rw [empty] at canonical
  cases canonical

theorem commit_eq (ticket : Nat) (slot : Slot) (update : Update) :
    commit ticket slot update = (do
      verify ticket slot update
      promote slot) := by
  simp only [commit, verify, isEmpty_checksum, Bool.false_eq_true, if_false, bind_assoc]
  refine bind_congr fun _ => bind_congr fun _ => bind_congr fun right => ?_
  cases right with
  | false => simp
  | true => rfl

theorem run_eq (config : DownloadConfig) (ticket : Nat) (update : Update) :
    run config ticket update = (do
      let slot ← prepare config update
      slot.reset
      rest.fromEmptied config ticket update slot) := by
  simp only [run, prepare, update.url_secure, Bool.not_true, Bool.false_eq_true, if_false, bind_assoc]
  refine bind_congr fun slot => bind_congr fun made => ?_
  cases made with
  | error error => simp
  | ok _ =>
      simp only [pure_bind, rest.fromEmptied, request, bind_assoc]
      refine bind_congr fun _ => bind_congr fun _ => bind_congr fun opened => ?_
      obtain ⟨length, events⟩ := opened
      cases length with
      | none => simp [rest.fromReceived, announce, artifactOf]
      | some length =>
          by_cases long : length > config.limit.toNat
          · simp [long]
          · simp [long, rest.fromReceived, announce, artifactOf]

section

variable {α β : Type} {config : DownloadConfig} {ticket : Nat} {update : Update}

theorem ending_run (job : Job DownloadError Stage) (world : World) :
    ending job world =
      match (job world).1 with
      | .ok stage => (stage, (job world).2)
      | .error halt => (.ended (.error halt), (job world).2) := by
  simp only [ending, Stateful.bind_run, ExceptT.run]
  cases (job world).1 <;> rfl

theorem discarding_run (slot : Slot) (job : Job DownloadError Stage) (world : World) :
    discarding slot job world =
      match (job world).1 with
      | .ok stage => (stage, (job world).2)
      | .error (.failure error) => (.failing slot error, (job world).2)
      | .error .crash => (.ended (.error .crash), (job world).2) := by
  simp only [discarding, Stateful.bind_run, ExceptT.run]
  rcases (job world).1 with (_ | _) | _ <;> rfl

theorem discardingOnFailure_run (slot : Slot) (job : Job DownloadError α) (world : World) :
    discardingOnFailure slot job world =
      match (job world).1 with
      | .ok a => (.ok a, (job world).2)
      | .error (.failure error) =>
        (.error (.failure error), (slot.discardStaging (job world).2).2)
      | .error .crash => (.error .crash, (job world).2) := by
  change (ExceptT.run job >>= _ : Effect _) world = _
  simp only [Stateful.bind_run, ExceptT.run]
  rcases (job world).1 with (_ | _) | _ <;> rfl

/-- A job is what its first part leads to and then what is left. -/
theorem rest_ending (job : Job DownloadError β) (stageOf : β → Stage)
    (whole : β → Job DownloadError Artifact)
    (same : ∀ b, rest config ticket update (stageOf b) = whole b) (world : World) :
    (job >>= whole) world =
      rest config ticket update (ending (do return stageOf (← job)) world).1
        (ending (do return stageOf (← job)) world).2 := by
  rw [Failing.bind_run, bind_pure_comp, ending_run, Failing.map_run]
  cases (job world).1 with
  | ok b => simp [same]
  | error halt => rfl

/-- The same for a job that discards the staging file when it fails. -/
theorem rest_discarding (slot : Slot) (job : Job DownloadError β) (stageOf : β → Stage)
    (inner : β → Job DownloadError α) (outer : α → Job DownloadError Artifact)
    (same : ∀ b, rest config ticket update (stageOf b) =
      discardingOnFailure slot (inner b) >>= outer) (world : World) :
    (discardingOnFailure slot (job >>= inner) >>= outer) world =
      rest config ticket update (discarding slot (do return stageOf (← job)) world).1
        (discarding slot (do return stageOf (← job)) world).2 := by
  rw [Failing.bind_run, bind_pure_comp, discardingOnFailure_run, discarding_run, Failing.map_run, Failing.bind_run]
  rcases found : (job world).1 with (error | _) | b
  · simp [rest]
  · simp [rest]
    rfl
  · simp only [map_ok, same, Failing.bind_run, discardingOnFailure_run]

/-- After a step there is left what was left before, without that step. -/
theorem rest_step (stage : Stage) (world : World) :
    rest config ticket update stage world =
      rest config ticket update (step config ticket update stage world).1
        (step config ticket update stage world).2 := by
  cases stage with
  | begun =>
      rw [rest, run_eq]
      exact rest_ending (prepare config update) .ready _ (fun _ => rfl) world
  | ready slot =>
      rw [rest, Slot.reset, bind_assoc]
      exact rest_ending (Slot.removePrevious slot.staging) (fun _ => .halfEmptied slot) _
        (fun _ => rfl) world
  | halfEmptied slot =>
      exact rest_ending (Slot.removePrevious slot.committed) (fun _ => .emptied slot) _
        (fun _ => rfl) world
  | emptied slot =>
      exact rest_ending (request config.limit.toNat update)
        (fun opened => .opened slot opened.1 opened.2) _ (fun _ => rfl) world
  | opened slot total events =>
      rw [rest, stage_eq]
      exact rest_discarding slot (create slot) (.streaming slot total · events) _ _
        (fun _ => rfl) world
  | streaming slot total status events =>
      cases events with
      | nil =>
          exact rest_discarding slot
            (log .debug s!"Staged {status.downloaded} bytes at {slot.staging}")
            (fun _ => .received slot status.downloaded) (fun _ => pure status.downloaded) _
            (fun _ => rfl) world
      | cons event events =>
          rw [rest, receive_cons, bind_assoc]
          exact rest_discarding slot (take ticket total config.limit.toNat status event)
            (.streaming slot total · events) _ _ (fun _ => rfl) world
  | received slot size =>
      rw [rest, rest.fromReceived, commit_eq]
      exact rest_discarding slot (verify ticket slot update) (fun _ => .verified slot size) _ _
        (fun _ => rfl) world
  | verified slot size =>
      rw [rest, step, Failing.bind_run, discardingOnFailure_run, discarding_run, Failing.bind_run]
      rcases (promote slot world).1 with (error | _) | _ 
      · simp [rest]
      · simp [rest]
        rfl
      · simp [rest, announce]
        rfl
  | failing slot error => simp [rest, step]; rfl
  | ended result => rfl

end

end SelfUpdate.Transfer
