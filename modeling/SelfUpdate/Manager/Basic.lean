import SelfUpdate.Downloader
import SelfUpdate.Manager.Error
import SelfUpdate.Settings
import SelfUpdate.Throttle

/-!
# The manager

The manager is what an application holds of its updater. It keeps the policy, spaces the checks, and
gives jobs to the checker and the downloader. Here are its parts and what it does at once; what
takes a worker is begun here and ends when the workers have settled.
-/

namespace SelfUpdate

structure Manager where
  /-- The version code of the running build. -/
  current : UInt32
  settings : Settings
  directory : Path
  policy : Policy
  store : PolicyStore
  checker : Checker
  downloader : Downloader

/-- A computation with a manager. -/
abbrev Session := StateT Manager Effect

namespace Manager

def log (level : Log.Level) (text : String) : Effect Unit := Effect.log level .manager text

/-! ## Start -/

/-- What the downloader of a manager keeps to. -/
def downloadConfig (settings : Settings) (directory : Path) : DownloadConfig :=
  ⟨directory, settings.artifactPrefix, settings.artifactLimit⟩

/-- The two workers, the downloader first. -/
def startWorkers (runtime : Bool) (config : DownloadConfig) :
    Except WorkerError (Downloader × Checker) := do
  let downloader ← Downloader.start runtime config
  let checker ← Checker.start runtime
  return (downloader, checker)

/-- Makes a manager for a build with the given version code. Its download directory becomes private,
and its policy is the one of the store. -/
def start (runtime : Bool) (current : UInt32) (settings : Settings) (directory : Path)
    (store : PolicyStore) : Effect (Except ManagerError Manager) := do
  match ← Effect.preparePrivateDirectory directory with
  | .error error => return .error (.downloadDirectory directory error)
  | .ok () =>
    match ← store.load with
    | .error error => return .error (.policy error)
    | .ok policy =>
      match startWorkers runtime (downloadConfig settings directory) with
      | .error error => return .error (.worker error)
      | .ok (downloader, checker) =>
        log .debug s!"Update manager ready (version code {current}, downloads in {directory})"
        return .ok { current, settings, directory, policy, store, checker, downloader }

/-! ## Policy -/

/-- Where the manager looks for updates. -/
def effectiveUrl (manager : Manager) : String :=
  manager.policy.customUrl.getD manager.settings.checkUrl

def isDismissed (manager : Manager) (code : UInt32) : Bool :=
  manager.policy.dismissed == some code

/-- Whether enough time has passed since the last attempt at a check. -/
def isCheckDue (manager : Manager) (clock : Int64) : Bool :=
  Throttle.isDue manager.policy.lastCheck clock

/-- Changes the policy and then keeps it. The change stands even when keeping it fails. -/
def changePolicy (change : Policy → Policy) : Session (Except PolicyError Unit) := do
  let manager ← get
  let policy := change manager.policy
  let (result, store) ← (manager.store.save policy : Effect _)
  set { manager with policy := policy, store := store }
  return result

def changeReply (change : Policy → Policy) : Session (Except ManagerError Unit) := do
  return (← changePolicy change).mapError .policy

/-- Dismisses the release with a version code. -/
def dismiss (code : UInt32) : Session (Except ManagerError Unit) := do
  log .info s!"Dismissing update with version code {code}"
  changeReply fun policy => { policy with dismissed := some code }

def clearDismissal : Session (Except ManagerError Unit) :=
  changeReply fun policy => { policy with dismissed := none }

def enableAutoCheck (enabled : Bool) : Session (Except ManagerError Unit) := do
  log .info ("Automatic update checks " ++ if enabled then "enabled" else "disabled")
  changeReply fun policy => { policy with autoCheck := enabled }

/-- The address that a wish stands for; a blank one stands for none. -/
def customUrl? (wish : Option String) : Option String :=
  (wish.map Text.trim).filter fun url => !url.isEmpty

/-- Sets where to look for updates instead of the usual place. -/
def chooseUrl (wish : Option String) : Session (Except ManagerError Unit) := do
  let chosen := customUrl? wish
  match chosen with
  | some url =>
    if Url.isSecure url then log .info ("Using custom update URL " ++ url)
    else log .warn ("Custom update URL is not https and will be refused at check time: " ++ url)
  | none => log .info "Using default update URL"
  changeReply fun policy => { policy with customUrl := chosen }

/-! ## Beginning jobs -/

/-- Notes the attempt in the policy, and then gives the check to the checker. Returns its number. -/
def beginCheck : Session Nat := do
  let clock := (← getThe World).clock
  match ← changePolicy fun policy => { policy with lastCheck := clock } with
  | .ok () => pure ()
  | .error error => log .warn ("Failed to persist last update check time: " ++ error.message)
  let manager ← get
  log .info ("Checking for updates at " ++ manager.effectiveUrl)
  set { manager with checker := manager.checker.submit ⟨manager.effectiveUrl, manager.current⟩ }
  return manager.checker.next

/-- Begins a check if checks are made automatically and one is due. -/
def beginDueCheck : Session (Option Nat) := do
  let manager ← get
  if !manager.policy.autoCheck then
    log .debug "Automatic update checks are disabled"
    return none
  if !manager.isCheckDue (← getThe World).clock then
    log .debug "Skipping update check, last check was less than 24h ago"
    return none
  some <$> beginCheck

def beginJob (job : DownloadJob) : Session Nat := do
  let manager ← get
  set { manager with downloader := manager.downloader.submit job }
  return manager.downloader.worker.next

/-! ## Ending jobs -/

/-- What the manager logs when the downloader has done a job. -/
def noteOutput : DownloadOutput → Effect Unit
  | .fetched _ => return
  | .cleaned report => do
    log .info s!"Removed {report.removed} stale update file(s)"
    if !report.isComplete then
      log .warn s!"{report.failed.length} stale update file(s) could not be deleted"

/-- Lets the workers do all that was given to them. -/
def settle : Session Unit := do
  let manager ← get
  let checker ← (manager.checker.settle : Effect _)
  let downloader ← (manager.downloader.settle noteOutput : Effect _)
  set { manager with checker := checker, downloader := downloader }

def checkResult (manager : Manager) (ticket : Nat) : Except ManagerError CheckOutcome :=
  (manager.checker.result ticket).mapError .check

def jobResult (manager : Manager) (ticket : Nat) : Except ManagerError DownloadOutput :=
  (manager.downloader.result ticket).mapError .download

/-- Keeps the workers from taking more jobs. -/
def shutDown : Session Unit := do
  log .info "Shutting down update manager"
  modify fun manager => { manager with
    checker := manager.checker.shutDown
    downloader := manager.downloader.shutDown }

end Manager

end SelfUpdate
