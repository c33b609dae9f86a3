import SelfUpdate.Disk.Error
import SelfUpdate.Failure
import SelfUpdate.Network.Error
import SelfUpdate.Path
import SelfUpdate.Worker

/-!
# Download errors
-/

namespace SelfUpdate

/-- The steps of a download or a cleanup that use the file system. -/
inductive DownloadStep where
  | createDirectory
  | removePrevious
  | createStaging
  | commit
  | list
  deriving DecidableEq, Repr

def DownloadStep.description : DownloadStep → String
  | createDirectory => "failed to create download directory"
  | removePrevious => "failed to remove previous"
  | createStaging => "failed to create staging file"
  | commit => "failed to commit"
  | list => "failed to list"

inductive DownloadError where
  | insecureUrl (url : String)
  | invalidName (version : String)
  | tooLarge (size limit : Nat)
  | transfer (error : Network.Error)
  | io (step : DownloadStep) (path : Path) (error : IoError)
  | checksumMissing (version : String)
  | checksumMismatch (version expected : String)
  | worker (error : WorkerError)
  deriving DecidableEq, Repr

namespace DownloadError

def message : DownloadError → String
  | insecureUrl url => "refusing insecure download URL " ++ url
  | invalidName version => "cannot derive a safe file name from version `" ++ version ++ "`"
  | tooLarge size limit =>
    s!"update artifact is {size} bytes, above the {limit} byte limit"
  | transfer error => "download failed: " ++ error.message
  | io step path error => step.description ++ " " ++ path ++ ": " ++ error.message
  | checksumMissing version =>
    "release " ++ version ++ " has no checksum; refusing to keep unverified download"
  | checksumMismatch version expected =>
    "checksum mismatch for release " ++ version ++ " (expected " ++ expected ++
      "); download discarded"
  | worker error => error.message

def kind : DownloadError → FailureKind
  | transfer _ => .transient
  | insecureUrl _ => .integrity
  | tooLarge _ _ => .integrity
  | checksumMissing _ => .integrity
  | checksumMismatch _ _ => .integrity
  | invalidName _ => .malformedInput
  | io _ _ _ => .local
  | worker _ => .shutDown

end DownloadError

end SelfUpdate
