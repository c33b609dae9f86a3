import SelfUpdate.CommandLine.Arguments
import SelfUpdate.Log.Start
import SelfUpdate.Manager.Session

/-!
# One run of the command line

A run loads the settings, starts the log and the manager, does its command and shuts the manager
down. Only a check that finds an update records a release, and only a recorded release is
downloaded.
-/

namespace SelfUpdate.CommandLine

inductive Error where
  | manager (error : ManagerError)
  | noRelease
  | saveRelease (path : Path) (error : IoError)
  | installRefused (path : Path)
  | cleanupIncomplete (remaining : Nat)
  deriving DecidableEq, Repr

def Error.message : Error → String
  | manager error => error.message
  | noRelease => "no release recorded; run `upgate check` first"
  | saveRelease path error => "failed to record release in " ++ path ++ ": " ++ error.message
  | installRefused path => path ++ " was not handed to the installer"
  | cleanupIncomplete remaining => s!"{remaining} file(s) could not be deleted"

/-- What a run leaves on the terminal. -/
structure Outcome where
  exitCode : Nat
  output : String
  diagnostics : String
  deriving DecidableEq, Repr

/-- A computation that prints lines. What was printed stays when it fails. -/
abbrev Printing := ExceptT Error (StateT String Session)

namespace Printing

def printLine (text : String) : Printing Unit :=
  modifyThe String (· ++ text ++ "\n")

def ofResult {α : Type} (result : Except ManagerError α) : Printing α :=
  match result with
  | .ok a => return a
  | .error error => throw (.manager error)

end Printing

open Printing

/-! ## Recorded releases -/

/-- Records a release. -/
def saveRelease (file : Path) (update : Update) : Printing Unit := do
  let text := Text.encode update.toJson.indented
  match ← (Effect.ofSteps (Disk.replaceFile file text) : Effect _) with
  | .ok () => return
  | .error error => throw (.saveRelease file error)

/-- The recorded release, when there is one that can be read. -/
def loadRelease (file : Path) : Effect (Option Update) := do
  let world ← get
  match world.disk.readText file with
  | .ok text => return (Update.parse world.now text).toOption
  | .error _ => return none

/-! ## Commands -/

def switchText (enabled : Bool) : String := if enabled then "on" else "off"

def reportUpdate (directories : Directories) (update : Update) : Printing Unit := do
  printLine s!"Update available: {update.version} (version code {update.code})"
  if !update.notes.isEmpty then printLine ("\n" ++ Text.trim update.notes ++ "\n")
  if (← getThe Manager).isDismissed update.code then
    printLine "This release was dismissed; `upgate clear-dismissal` to show it again"
  saveRelease directories.lastReleaseFile update

def reportCheck (directories : Directories) : Option CheckOutcome → Printing Unit
  | none => printLine "Skipped: a check ran within the last 24 hours or auto-check is off"
  | some .noUpdate => printLine "Up to date"
  | some (.updateAvailable update) => reportUpdate directories update

def check (directories : Directories) (force : Bool) : Printing Unit := do
  let outcome ←
    if force then pure ((← (Manager.checkNow : Session _)).map some)
    else (Manager.checkIfDue : Session _)
  reportCheck directories (← ofResult outcome)

def progressLine : Progress → String
  | .downloading percent downloaded total =>
    let digits := toString percent
    "".pushn ' ' (3 - digits.length) ++ digits ++ s!"% ({downloaded}/{total} bytes)"
  | .verifying => "Verifying checksum..."

def download (directories : Directories) : Printing Unit := do
  match ← (loadRelease directories.lastReleaseFile : Effect _) with
  | none => throw .noRelease
  | some update =>
    let (ticket, result) ← (Manager.perform (.fetch update) : Session _)
    for (number, event) in (← getThe World).progress do
      if number = ticket then printLine (progressLine event)
    match ← ofResult result with
    | .fetched artifact =>
      printLine s!"Verified {artifact.path} ({artifact.size} bytes)"
      printLine ("sha256 " ++ artifact.checksum)
    | .cleaned _ => return

def install (path : Path) : Printing Unit := do
  if !(← (Manager.requestInstall path : Session _)) then throw (.installRefused path)
  printLine s!"Handed {path} to the installer"

def cleanUp : Printing Unit := do
  let (_, result) ← (Manager.perform .clean : Session _)
  match ← ofResult result with
  | .cleaned report =>
    printLine s!"Removed {report.removed} file(s) from {(← getThe Manager).directory}"
    for path in report.failed do printLine ("Could not delete " ++ path)
    if !report.isComplete then throw (.cleanupIncomplete report.failed.length)
  | .fetched _ => return

/-- When the last check was attempted. A time without a calendar date is shown as a number. -/
def lastCheckText (lastCheck : Int64) : String :=
  if lastCheck = 0 then "never"
  else (Calendar.format lastCheck.toInt).getD (toString lastCheck)

def status : Printing Unit := do
  let manager ← getThe Manager
  let due := manager.isCheckDue (← getThe World).clock
  printLine s!"Current version code: {manager.current}"
  printLine ("Endpoint:             " ++ manager.effectiveUrl)
  printLine ("Automatic checks:     " ++ switchText manager.policy.autoCheck)
  printLine ("Last check:           " ++ lastCheckText manager.policy.lastCheck)
  printLine s!"Check due:            {due}"
  printLine ("Dismissed release:    " ++ (manager.policy.dismissed.map toString).getD "none")
  printLine ("Download directory:   " ++ manager.directory)

def perform (directories : Directories) : Command → Printing Unit
  | .check force => check directories force
  | .download => download directories
  | .install path => install path
  | .cleanUp => cleanUp
  | .dismiss code => do
    ofResult (← (Manager.dismiss code : Session _))
    printLine s!"Dismissed version code {code}"
  | .clearDismissal => do
    ofResult (← (Manager.clearDismissal : Session _))
    printLine "Dismissal cleared"
  | .enableAutoCheck enabled => do
    ofResult (← (Manager.enableAutoCheck enabled : Session _))
    printLine ("Automatic checks " ++ switchText enabled)
  | .chooseUrl wish => do
    ofResult (← (Manager.chooseUrl wish : Session _))
    printLine ("Update endpoint: " ++ (← getThe Manager).effectiveUrl)
  | .status => status

/-! ## Runs -/

def failed (output : String) (error : Error) : Outcome :=
  ⟨1, output, "upgate: " ++ error.message ++ "\n"⟩

/-- Does a command with a manager, which is shut down afterwards. -/
def runCommand (directories : Directories) (command : Command) (manager : Manager) :
    Effect Outcome := do
  let ((result, output), manager) ← (((perform directories command).run).run "").run manager
  let _ ← Manager.shutDown.run manager
  match result with
  | .ok () => return ⟨0, output, ""⟩
  | .error error => return failed output error

def runInvocation (directories : Directories) (invocation : Invocation) : Effect Outcome := do
  let settings ← Settings.load directories.settingsFile
  Effect.startLog directories (settings.debugLogging || invocation.verbose) settings.logLimit
  Effect.log .debug .commandLine ("Loaded settings: " ++ settings.describe)
  match ← Manager.start true invocation.current settings directories.downloads
      (.file directories.policyFile) with
  | .ok manager => runCommand directories invocation.command manager
  | .error error => return failed "" (.manager error)

def usageText : String :=
  "Usage: upgate [OPTIONS] <COMMAND>\n\nCommands: " ++ ", ".intercalate commandNames ++
    "\n\nOptions:\n      --current-code <CODE>\n  -v, --verbose\n  -h, --help\n"

/-- Runs the updater with the given arguments. -/
def run (directories : Directories) (arguments : List String) : Effect Outcome :=
  match parse arguments with
  | .ok invocation => runInvocation directories invocation
  | .error .help => return ⟨0, usageText, ""⟩
  | .error .usage => return ⟨2, "", usageText⟩

end SelfUpdate.CommandLine
