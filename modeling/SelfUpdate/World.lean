import SelfUpdate.Calendar
import SelfUpdate.Installer
import SelfUpdate.Log.Record
import SelfUpdate.Network.Basic

/-!
# The surroundings of the updater

The disk, the network, the log, the installer and the clock, and the effects on them. A job is a
computation with effects that may fail, or crash, which is to end without any result.
-/

namespace SelfUpdate

inductive Progress where
  | downloading (percent downloaded total : Nat)
  | verifying
  deriving DecidableEq, Repr

/-- An open log file: where it is, and the file that lines go to. -/
structure LogFile where
  path : Path
  identity : Nat
  deriving DecidableEq, Repr

/-- Where the records of the log go. -/
inductive LogSink where
  /-- Nothing takes them yet. -/
  | unset
  /-- The host of the updater takes them. -/
  | host
  | file (file : LogFile)
  deriving DecidableEq, Repr

structure World where
  disk : Disk
  network : Network
  /-- All requests, the oldest first. -/
  requests : List Request
  /-- The records that were kept, the oldest first. -/
  records : List Log.Record
  /-- Records below this level are not kept; without a level none is. -/
  leastLevel : Option Log.Level
  sink : LogSink
  /-- What downloads told their listeners, the oldest first, each with the number of its job. -/
  progress : List (Nat × Progress)
  /-- The wall clock, in milliseconds since the start of 1970. -/
  now : Int64
  /-- The clock by which checks are spaced. -/
  clock : Int64
  installer : Installer
  /-- What was handed to the installer, the oldest first. -/
  handedOver : List InstallRequest

abbrev Effect := StateM World

inductive Halt (ε : Type) where
  | failure (error : ε)
  | crash
  deriving DecidableEq, Repr

abbrev Job (ε : Type) := ExceptT (Halt ε) Effect

namespace Job

def fail {ε α : Type} (error : ε) : Job ε α := throw (.failure error)

def ofExcept {ε δ α : Type} (wrap : δ → ε) : Except δ α → Job ε α
  | .ok a => pure a
  | .error error => fail (wrap error)

end Job

/-! ## Disk -/

namespace Effect

def ofSteps (steps : Disk.Steps Unit) : Effect (Except IoError Unit) := do
  let world ← get
  let (result, disk) := steps world.disk
  set { world with disk := disk }
  return result

def ofStep (step : Disk → Except IoError Disk) : Effect (Except IoError Unit) := do
  let world ← get
  match step world.disk with
  | .ok disk =>
    set { world with disk := disk }
    return .ok ()
  | .error error => return .error error

/-! ## Log -/

/-- A point in time as the log file shows it: in UTC, with nine digits of the second's fraction. -/
def logTime (now : Int64) : String :=
  let millis := now.toInt
  let seconds := (Calendar.format (millis - millis % 1000)).getD ""
  String.ofList (seconds.toList.take (seconds.length - 6)) ++ "." ++
    Calendar.padded 3 (millis % 1000).toNat ++ "000000Z"

/-- A line of the log file. Only records of the lowest level name the thread and their source. -/
def logLine (now : Int64) (record : Log.Record) : String :=
  let detail := if record.level = .debug then "(1) " ++ record.source.name ++ ": " else ""
  logTime now ++ " [" ++ record.level.name ++ "] " ++ detail ++ record.text ++ "\n"

/-- Opens a file to which lines can be appended. -/
def openLogFile (path : Path) : Effect (Option LogFile) := do
  let world ← get
  match world.disk.openForWriting path with
  | .ok (identity, disk) =>
    set { world with disk := disk }
    return some ⟨path, identity⟩
  | .error _ => return none

/-- The log file as it can be written to: when nothing is at its path any more it is made anew. -/
def liveLogFile (file : LogFile) : Effect (Option LogFile) := do
  let disk := (← get).disk
  if (disk.node? file.path).isSome then return some file
  match Path.parent? file.path with
  | none => openLogFile file.path
  | some parent =>
    match ← ofSteps (Disk.makeDirectories parent) with
    | .ok () => openLogFile file.path
    | .error _ => return none

def appendToLogFile (record : Log.Record) : Effect Unit := do
  match (← get).sink with
  | .unset => return
  | .host => return
  | .file file =>
    match ← liveLogFile file with
    | none => return
    | some file =>
      modify fun world => { world with
        sink := .file file
        disk := world.disk.modifyFile file.identity
          (· ++ Text.encode (logLine world.now record)) }

/-- Keeps a record, unless its level is too low. -/
def log (level : Log.Level) (source : Log.Source) (text : String) : Effect Unit := do
  let world ← get
  if !world.leastLevel.any (·.isKept level) then return
  let record : Log.Record := ⟨level, source, text⟩
  set { world with records := world.records ++ [record] }
  appendToLogFile record

/-! ## Network -/

def interfere (actions : List Disk.Action) : Effect Unit :=
  modify fun world => { world with disk := world.disk.afterActions actions }

/-- Asks for a text. -/
def getText (url : String) : Effect TextReply := do
  let world ← get
  let answer := world.network.text world.requests url
  set { world with requests := world.requests ++ [Request.text url] }
  interfere answer.interference
  return answer.reply

/-- Asks for a stream. -/
def openStream (url : String) : Effect StreamReply := do
  let world ← get
  let answer := world.network.stream world.requests url
  set { world with requests := world.requests ++ [Request.stream url] }
  interfere answer.interference
  return answer.reply

/-! ## Installer -/

/-- Hands a request to the installer. An error is the text of its refusal. -/
def handOver (request : InstallRequest) : Effect (Except String Unit) := do
  let world ← get
  if world.installer.announces then
    log .info .installer
      ("Opening " ++ request.artifact ++ " (" ++ request.mediaType ++ ") with the system handler")
  modify fun world => { world with handedOver := world.handedOver ++ [request] }
  match world.installer.refusal? request with
  | none => return .ok ()
  | some reason => return .error (Installer.refusalMessage request reason)

/-! ## Listeners -/

/-- Tells the listener of a job how it goes. -/
def tell (ticket : Nat) (event : Progress) : Effect Unit :=
  modify fun world => { world with progress := world.progress ++ [(ticket, event)] }

end Effect

end SelfUpdate
