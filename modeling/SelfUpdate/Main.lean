import SelfUpdate.CommandLine.Run
import SelfUpdate.Network.Client

/-!
# The program

A run works on the directories of the updater as they were when it began, and what it changed is
then carried out. The program opens no connection and starts no other program: every request ends as
on a machine without a network, and no artifact is taken over.
-/

namespace SelfUpdate.Main

def environment : IO Environment := do
  return {
    home := ← IO.getEnv "HOME"
    configHome := ← IO.getEnv "XDG_CONFIG_HOME"
    cacheHome := ← IO.getEnv "XDG_CACHE_HOME"
    dataHome := ← IO.getEnv "XDG_DATA_HOME"
    accountHome := "/" }

/-- The wall clock in milliseconds, as a new file shows it. -/
def wallClock : IO Int64 := do
  let (_, file) ← IO.FS.createTempFile
  let time := (← file.metadata).modified
  IO.FS.removeFile file
  return Int64.ofInt (time.sec * 1000 + time.nsec.toNat / 1000000)

/-- The names from the root to what a path names. -/
def locationOf (path : Path) : IO Location := do
  let file := (← IO.currentDir) / path
  return (Path.pieces file.toString).filter fun piece => !piece.isEmpty && piece != "."

/-! ## Reading the disk -/

/-- The mode of what was there before a run, which is kept. -/
def keptMode : Nat := 0

partial def readEntry (disk : Disk) (location : Location) : IO Disk := do
  let file := (← IO.currentDir) / Disk.pathOf location
  if ← file.isDir then
    let disk := disk.put location (.directory keptMode)
    (← file.readDir).foldlM (fun disk entry => readEntry disk (location ++ [entry.fileName])) disk
  else if ← file.pathExists then
    let bytes := (← IO.FS.readBinFile file).toList
    return disk.putNewFile location keptMode bytes
  else return disk

/-- Reads the directories above a location. -/
def readAbove (disk : Disk) (location : Location) : IO Disk :=
  (List.range location.length).foldlM (fun disk length => do
    let above := location.take length
    let file := (← IO.currentDir) / Disk.pathOf above
    if length > 0 && (← file.isDir) then return disk.put above (.directory keptMode)
    else return disk) disk

def readDisk (directories : Directories) : IO Disk := do
  let disk := { Disk.empty with workingDirectory := ← locationOf "." }
  let disk ← readAbove disk (disk.workingDirectory ++ [""])
  [directories.config, directories.cache, directories.data].foldlM (fun disk path => do
    let location ← locationOf path
    readEntry (← readAbove disk location) location) disk

/-! ## Writing the disk -/

def accessOf (bits : Nat) : IO.AccessRight := ⟨bits.testBit 2, bits.testBit 1, bits.testBit 0⟩

def setMode (path : Path) (mode : Nat) : IO Unit := do
  if mode != keptMode then
    IO.setAccessRights path ⟨accessOf (mode / 64), accessOf (mode / 8), accessOf mode⟩

/-- Writes a file as a whole: its content goes to a file beside it, which then takes its place. -/
def writeFile (path : Path) (mode : Nat) (bytes : Bytes) : IO Unit := do
  let staged := path ++ ".new"
  IO.FS.writeBinFile staged (ByteArray.mk bytes.toArray)
  setMode staged mode
  IO.FS.rename staged path

def writeEntry (before : Disk) (location : Location) (node : Node) : IO Unit := do
  if before.get? location != some node then
    match node with
    | .directory mode =>
      IO.FS.createDirAll (Disk.pathOf location)
      setMode (Disk.pathOf location) mode
    | .file _ mode bytes => writeFile (Disk.pathOf location) mode bytes
    | .link _ => return

def writeDisk (before after : Disk) : IO Unit := do
  for (location, _) in before.entries do
    if (after.get? location).isNone then IO.FS.removeFile (Disk.pathOf location)
  for (location, node) in after.entries do writeEntry before location node

/-! ## Runs -/

def world (disk : Disk) (now : Int64) : World where
  disk := disk
  network := Network.Client.network Network.Server.unreachable
  requests := []
  records := []
  leastLevel := none
  sink := .unset
  progress := []
  now := now
  clock := now
  installer := ⟨true, fun _ => some IoError.notFound.message⟩
  handedOver := []

def isVerbose (arguments : List String) : Bool :=
  match CommandLine.parse arguments with
  | .ok invocation => invocation.verbose
  | .error _ => false

def run (arguments : List String) : IO UInt32 := do
  let directories := Directories.ofEnvironment (← environment)
  let disk ← readDisk directories
  let (outcome, after) :=
    (CommandLine.run directories arguments).run (world disk (← wallClock))
  writeDisk disk after.disk
  if isVerbose arguments then
    for record in after.records do IO.eprint (Effect.logLine after.now record)
  IO.print outcome.output
  IO.eprint outcome.diagnostics
  return UInt32.ofNat outcome.exitCode

end SelfUpdate.Main

def main (arguments : List String) : IO UInt32 := SelfUpdate.Main.run arguments
