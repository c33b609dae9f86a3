import SelfUpdate.Directories

/-!
# Starting the log

The log file is opened when the updater starts. A file above its limit first loses the older half of
its content, cut after a line feed where the newer half has one.
-/

namespace SelfUpdate

namespace Log

def lineFeed : UInt8 := 10

/-- The newer half of a content, from its first line on. -/
def newerPart (content : Bytes) : Bytes :=
  let half := content.drop (content.length / 2)
  match half.dropWhile (· != lineFeed) with
  | [] => half
  | _ :: lines => lines

/-- What a log becomes when it may have `limit` octets. -/
def trimmed (limit : Nat) (content : Bytes) : Bytes :=
  if content.length > limit then newerPart content else content

def levelOf (enabled : Bool) : Level := if enabled then .debug else .warn

end Log

namespace Effect

/-- Turns records below a warning on or off. -/
def enableLog (enabled : Bool) : Effect Unit :=
  modify fun world => { world with leastLevel := some (Log.levelOf enabled) }

/-- Trims the file at a path, and says whether it was above the limit. -/
def trimLogFile (path : Path) (limit : Nat) : Effect Bool := do
  let disk := (← get).disk
  match disk.readFile path with
  | .error _ => return false
  | .ok content =>
    if content.length ≤ limit then return false
    return (← ofStep (·.writeFile path (Log.trimmed limit content))).toBool

/-- Lets records go to a file, unless the host takes them. -/
def directLogTo (path : Path) : Effect Unit := do
  match ← openLogFile path with
  | none => return
  | some file => modify fun world =>
      { world with sink := if world.sink = .unset then .file file else world.sink }

def startLog (directories : Directories) (verbose : Bool) (limit : UInt64) : Effect Unit := do
  let _ ← ofSteps directories.ensure
  let path := directories.logFile
  let trimmed ← trimLogFile path limit.toNat
  directLogTo path
  enableLog verbose
  log .debug .logging ("Logging initialized, log file: " ++ path)
  if trimmed then log .debug .logging s!"Trimmed log file above {limit} bytes"

end Effect

end SelfUpdate
