import SelfUpdate.Download.Error
import SelfUpdate.World

/-!
# Cleaning the download directory

Every file of the directory is removed, and every link to a file. Each entry is looked at when its
turn comes, after those before it have gone.
-/

namespace SelfUpdate

structure CleanupReport where
  removed : Nat
  failed : List Path
  deriving DecidableEq, Repr

namespace CleanupReport

def empty : CleanupReport := ⟨0, []⟩

def isComplete (report : CleanupReport) : Bool := report.failed.isEmpty

end CleanupReport

namespace Cleanup

def log (level : Log.Level) (text : String) : Effect Unit := Effect.log level .downloader text

/-- Removes the files among the given paths, one after another. -/
def removeFiles : CleanupReport → List Path → Effect CleanupReport
  | report, [] => return report
  | report, path :: rest => do
    if (← get).disk.isFile path then
      match ← Effect.ofStep (·.removeFile path) with
      | .ok () =>
        log .info ("Deleted old update file: " ++ path)
        removeFiles { report with removed := report.removed + 1 } rest
      | .error .notFound => removeFiles report rest
      | .error error =>
        log .warn ("Failed to delete " ++ path ++ ": " ++ error.message)
        removeFiles { report with failed := report.failed ++ [path] } rest
    else removeFiles report rest

/-- Cleans a directory whose entries are met in the order that `arrange` gives them. A missing
directory is clean. -/
def run (arrange : List Path → List Path) (directory : Path) : Job DownloadError CleanupReport := do
  match (← get).disk.list directory with
  | .error .notFound => return .empty
  | .error error => Job.fail (.io .list directory error)
  | .ok paths => removeFiles .empty (arrange paths)

end Cleanup

end SelfUpdate
