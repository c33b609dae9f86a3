import SelfUpdate.Digest
import SelfUpdate.Download.Slot
import SelfUpdate.Release.Update

/-!
# One download

The stream goes to the staging file, which becomes the committed file only after its digest was
found right. A download that fails discards its staging file.
-/

namespace SelfUpdate

structure DownloadConfig where
  directory : Path
  namePrefix : String
  limit : UInt64
  deriving DecidableEq, Repr

structure Artifact where
  path : Path
  version : String
  checksum : String
  size : Nat
  deriving DecidableEq, Repr

namespace Transfer

def log (level : Log.Level) (text : String) : Job DownloadError Unit :=
  Effect.log level .downloader text

/-- The part of the total that has come, in whole percent and at most a hundred; unknown when the
total is. -/
def percent? (downloaded total : Nat) : Option Nat :=
  if total = 0 then none else some (min (downloaded * 100 / total) 100)

/-- A transfer under way: the octets so far, the last percentage told, and the open file. -/
structure Status where
  downloaded : Nat
  told : Option Nat
  handle : Disk.Handle
  deriving DecidableEq, Repr

/-- Tells the percentage when it is larger than the last one told. -/
def report (ticket total downloaded : Nat) (told : Option Nat) : Effect (Option Nat) := do
  match percent? downloaded total with
  | none => return told
  | some percent =>
    if told.all (· < percent) then
      Effect.tell ticket (.downloading percent downloaded total)
      return some percent
    else return told

/-- Takes in the events of a stream. -/
def receive (ticket total limit : Nat) : Status → List StreamEvent → Job DownloadError Nat
  | status, [] => return status.downloaded
  | _, .failure error :: _ => Job.fail (.transfer error)
  | _, .crash :: _ => throw .crash
  | status, .interference actions :: rest => do
    Effect.interfere actions
    receive ticket total limit status rest
  | status, .chunk bytes :: rest => do
    let downloaded := status.downloaded + bytes.length
    if downloaded > limit then
      log .warn s!"Update artifact exceeded {limit} bytes while streaming"
      Job.fail (.tooLarge downloaded limit)
    let world ← get
    let (handle, disk) := world.disk.write status.handle bytes
    set { world with disk := disk }
    let told ← report ticket total downloaded status.told
    receive ticket total limit ⟨downloaded, told, handle⟩ rest

/-- Writes a stream to a new staging file, and returns how many octets it had. -/
def stage (ticket total limit : Nat) (slot : Slot) (events : List StreamEvent) :
    Job DownloadError Nat := do
  let world ← get
  match world.disk.createNew slot.staging with
  | .error error => Job.fail (.io .createStaging slot.staging error)
  | .ok (handle, disk) =>
    set { world with disk := disk }
    let downloaded ← receive ticket total limit ⟨0, none, handle⟩ events
    log .debug s!"Staged {downloaded} bytes at {slot.staging}"
    return downloaded

/-- Discards the staging file when a step fails. A crash leaves it. -/
def discardingOnFailure {α : Type} (slot : Slot) (step : Job DownloadError α) :
    Job DownloadError α := ExceptT.mk do
  let result ← step.run
  match result with
  | .error (.failure _) => slot.discardStaging
  | _ => pure ()
  return result

/-- Verifies the staging file and commits it. -/
def commit (ticket : Nat) (slot : Slot) (update : Update) : Job DownloadError Unit := do
  if update.checksum.isEmpty then
    log .warn ("No checksum for " ++ update.version ++ "; discarding download")
    Job.fail (.checksumMissing update.version)
  Effect.tell ticket .verifying
  log .debug ("Verifying checksum of " ++ slot.staging)
  if !(← Digest.verify slot.staging update.checksum) then
    log .warn ("Checksum verification failed for " ++ update.version)
    Job.fail (.checksumMismatch update.version update.checksum)
  match ← (slot.promote : Job DownloadError _) with
  | .ok () => return
  | .error error => Job.fail (.io .commit slot.committed error)

/-- The stream at an address, with its advertised length. -/
def openStream (url : String) : Job DownloadError (Option Nat × List StreamEvent) := do
  match ← (Effect.openStream url : Job DownloadError _) with
  | .opened length events => return (length, events)
  | .failure error => Job.fail (.transfer error)
  | .crash => throw .crash

/-- The total against which progress is told: the advertised length, or else the stated size. -/
def totalOf (length : Option Nat) (update : Update) : Nat :=
  match length with
  | some length => if length > 0 then length else update.fileSize.toNat
  | none => update.fileSize.toNat

/-- Downloads the artifact of an update into its slot. -/
def run (config : DownloadConfig) (ticket : Nat) (update : Update) :
    Job DownloadError Artifact := do
  if !Url.isSecure update.url then
    log .warn ("Download URL is not https, refusing: " ++ update.url)
    Job.fail (.insecureUrl update.url)
  let slot ← Job.ofExcept id (Slot.ofVersion config.directory config.namePrefix update.version)
  match ← (Effect.ofSteps (Disk.makeDirectories config.directory) : Job DownloadError _) with
  | .error error => Job.fail (.io .createDirectory config.directory error)
  | .ok () => pure ()
  slot.reset
  log .info ("Downloading update " ++ update.version ++ " from " ++ update.url)
  let (length, events) ← openStream update.url
  let limit := config.limit.toNat
  match length with
  | some length =>
    if length > limit then
      log .warn s!"Update artifact too large: {length} bytes"
      Job.fail (.tooLarge length limit)
  | none => pure ()
  let size ← discardingOnFailure slot (stage ticket (totalOf length update) limit slot events)
  discardingOnFailure slot (commit ticket slot update)
  log .info ("Update " ++ update.version ++ " verified and committed: " ++ slot.committed)
  return ⟨slot.committed, update.version, update.checksum, size⟩

end Transfer

end SelfUpdate
