import SelfUpdate.Download.Error
import SelfUpdate.SafeName
import SelfUpdate.World

/-!
# Artifact slots

Each version has a slot in the download directory: a staging file, which is not verified, and the
committed file, which is. Both are named after the version.
-/

namespace SelfUpdate

def stagingSuffix : String := ".tmp"

structure Slot where
  staging : Path
  committed : Path
  deriving DecidableEq, Repr

inductive SlotState where
  | absent
  | staging
  | committed
  deriving DecidableEq, Repr

namespace Slot

/-- The slot of a version. Its name has to be that of an entry of the directory. -/
def ofVersion (directory : Path) (namePrefix version : String) : Except DownloadError Slot :=
  let name := safeName (namePrefix ++ "-" ++ version)
  if Path.isName name then
    .ok ⟨Path.join directory (name ++ stagingSuffix), Path.join directory name⟩
  else .error (.invalidName version)

def state (slot : Slot) (disk : Disk) : SlotState :=
  if disk.isFile slot.committed then .committed
  else if disk.isFile slot.staging then .staging
  else .absent

def log (level : Log.Level) (text : String) : Effect Unit := Effect.log level .downloader text

/-- Removes a file of a slot, unless it is missing. -/
def removePrevious (path : Path) : Job DownloadError Unit := do
  match ← (Effect.ofStep (·.removeFile path) : Job DownloadError _) with
  | .ok () => log .debug ("Removed previous artifact " ++ path)
  | .error .notFound => return
  | .error error => Job.fail (.io .removePrevious path error)

/-- Empties a slot. -/
def reset (slot : Slot) : Job DownloadError Unit := do
  removePrevious slot.staging
  removePrevious slot.committed

def discardStaging (slot : Slot) : Effect Unit := do
  match ← Effect.ofStep (·.removeFile slot.staging) with
  | .ok () => log .debug ("Discarded staging file " ++ slot.staging)
  | .error .notFound => return
  | .error error =>
    log .warn ("Failed to discard staging file " ++ slot.staging ++ ": " ++ error.message)

/-- Makes the staging file the committed one. -/
def promote (slot : Slot) : Effect (Except IoError Unit) :=
  Effect.ofStep (·.rename slot.staging slot.committed)

end Slot

end SelfUpdate
