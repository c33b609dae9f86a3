import SelfUpdate.Checker
import SelfUpdate.Download.Error
import SelfUpdate.Policy

/-!
# Errors of the manager
-/

namespace SelfUpdate

inductive ManagerError where
  | check (error : CheckError)
  | download (error : DownloadError)
  | policy (error : PolicyError)
  | worker (error : WorkerError)
  | downloadDirectory (path : Path) (error : IoError)
  deriving DecidableEq, Repr

namespace ManagerError

def message : ManagerError → String
  | check error => error.message
  | download error => error.message
  | policy error => error.message
  | worker error => error.message
  | downloadDirectory path error =>
    "failed to prepare download directory " ++ path ++ ": " ++ error.message

def kind : ManagerError → FailureKind
  | check error => error.kind
  | download error => error.kind
  | policy _ => .local
  | worker _ => .shutDown
  | downloadDirectory _ _ => .local

end ManagerError

end SelfUpdate
