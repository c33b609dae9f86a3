import SelfUpdate.Path

/-!
# Installers

An installer is handed a verified artifact together with a hint for how to open it. It takes the
artifact over or gives a reason why it does not.
-/

namespace SelfUpdate

structure InstallRequest where
  artifact : Path
  mediaType : String
  deriving DecidableEq, Repr

structure Installer where
  /-- Whether it writes to the log what it is about to open. -/
  announces : Bool
  refusal? : InstallRequest → Option String

namespace Installer

/-- Takes over every artifact without a word. -/
def willing : Installer := ⟨false, fun _ => none⟩

/-- What the log says of a refusal. -/
def refusalMessage (request : InstallRequest) (reason : String) : String :=
  "failed to hand " ++ request.artifact ++ " to the system installer: " ++ reason

end Installer

end SelfUpdate
