import SelfUpdate.Manager.Basic

/-!
# Handing artifacts to the installer

Only a file that lies in the download directory itself, links resolved, and that is not named like a
staging file reaches the installer.
-/

namespace SelfUpdate.Manager

def isStagingName (path : Path) : Bool :=
  (Path.fileName? path).any (·.endsWith stagingSuffix)

/-- The file that a path names in the download directory, links resolved. -/
def committedArtifact? (directory artifact : Path) : Effect (Option Path) := do
  if isStagingName artifact then
    log .warn ("Refusing to install unverified staging file " ++ artifact)
    return none
  let disk := (← get).disk
  match disk.canonical artifact, disk.canonical directory with
  | .ok file, .ok home =>
    if Path.parent? file = some home ∧ disk.isFile file then return some file
    log .warn ("Refusing to install " ++ file ++ ": not a file in " ++ home)
    return none
  | _, _ =>
    log .warn ("Refusing to install missing file " ++ artifact)
    return none

/-- Hands an artifact to the installer, and says whether the installer took it. -/
def requestInstall (artifact : Path) : Session Bool := do
  let manager ← get
  match ← (committedArtifact? manager.directory artifact : Effect _) with
  | none => return false
  | some file =>
    match ← (Effect.handOver ⟨file, manager.settings.mediaType⟩ : Effect _) with
    | .ok () =>
      log .info ("Install handed off for " ++ file)
      return true
    | .error reason =>
      log .warn ("Install handoff failed: " ++ reason)
      return false

end SelfUpdate.Manager
