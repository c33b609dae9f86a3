import SelfUpdate.Disk.Error
import SelfUpdate.Path
import SelfUpdate.Text.Utf8

/-!
# Disks

A disk maps locations to directories, files and symbolic links. A location is the list of names from
the root; the root itself is always a directory. Each file has an identity of its own, by which an
open handle finds it wherever it has been moved to.
-/

namespace SelfUpdate

abbrev Location := List String

inductive Node where
  | directory (mode : Nat)
  | file (identity mode : Nat) (bytes : Bytes)
  | link (target : Path)
  deriving DecidableEq, Repr

namespace Node

def isDirectory : Node → Bool
  | directory _ => true
  | _ => false

def isFile : Node → Bool
  | file _ _ _ => true
  | _ => false

def identity? : Node → Option Nat
  | file identity _ _ => some identity
  | _ => none

def mode? : Node → Option Nat
  | directory mode => some mode
  | file _ mode _ => some mode
  | link _ => none

end Node

structure Disk where
  /-- The entries below the root, the oldest first. -/
  entries : List (Location × Node)
  /-- An identity that no file has or had. -/
  freshIdentity : Nat
  /-- Where relative paths start. -/
  workingDirectory : Location
  /-- Directories in which nothing can be created, replaced or removed. -/
  sealedDirectories : List Location
  deriving Repr

namespace Disk

def empty : Disk := ⟨[], 0, [], []⟩

def directoryMode : Nat := 0o755

def fileMode : Nat := 0o644

/-- The mode of a file or directory that only its owner may use. -/
def privateFileMode : Nat := 0o600

def privateDirectoryMode : Nat := 0o700

def get? (disk : Disk) (location : Location) : Option Node :=
  if location.isEmpty then some (.directory directoryMode)
  else (disk.entries.find? (fun entry => entry.1 == location)).map Prod.snd

def isDirectoryAt (disk : Disk) (location : Location) : Bool :=
  (disk.get? location).any Node.isDirectory

def isSealed (disk : Disk) (location : Location) : Bool :=
  disk.sealedDirectories.contains location

/-- Sets what is at a location. An entry that is there is replaced where it stands. -/
def put (disk : Disk) (location : Location) (node : Node) : Disk :=
  if disk.entries.any (fun entry => entry.1 == location) then
    { disk with entries := disk.entries.map fun entry =>
        if entry.1 == location then (location, node) else entry }
  else { disk with entries := disk.entries ++ [(location, node)] }

/-- Removes an entry and everything below it. -/
def erase (disk : Disk) (location : Location) : Disk :=
  { disk with entries := disk.entries.filter fun entry => !location.isPrefixOf entry.1 }

/-- The entries of a directory, the oldest first. -/
def children (disk : Disk) (location : Location) : List String :=
  disk.entries.filterMap fun entry =>
    if entry.1.dropLast == location then entry.1.getLast? else none

/-- Puts a new file with the given content at a location. -/
def putNewFile (disk : Disk) (location : Location) (mode : Nat) (bytes : Bytes) : Disk :=
  { disk.put location (.file disk.freshIdentity mode bytes) with
    freshIdentity := disk.freshIdentity + 1 }

/-- Moves an entry and everything below it. -/
def move (disk : Disk) (source target : Location) : Disk :=
  { disk with entries := disk.entries.map fun entry =>
      if source.isPrefixOf entry.1 then (target ++ entry.1.drop source.length, entry.2) else entry }

/-- Changes the content of the file with an identity; nothing happens when it is gone. -/
def modifyFile (disk : Disk) (identity : Nat) (change : Bytes → Bytes) : Disk :=
  { disk with entries := disk.entries.map fun entry =>
      match entry.2 with
      | .file i mode bytes =>
        if i = identity then (entry.1, .file i mode (change bytes)) else entry
      | _ => entry }

end Disk

end SelfUpdate
