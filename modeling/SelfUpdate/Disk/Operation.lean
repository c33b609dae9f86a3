import SelfUpdate.Disk.Resolve

/-!
# Operations on a disk

Each operation is one indivisible change of the disk or fails and changes nothing, save those that
are made of several steps: these keep the steps done before a failure.
-/

namespace SelfUpdate.Disk

/-! ## Single steps -/

def makeDirectory (disk : Disk) (path : Path) : Except IoError Disk := do
  let place ← disk.place path
  let location ← place.locate .alreadyExists
  if (disk.get? location).isSome then throw .alreadyExists
  if disk.isSealed place.directory then throw .permissionDenied
  return disk.put location (.directory directoryMode)

/-- Removes a file or a link. -/
def removeFile (disk : Disk) (path : Path) : Except IoError Disk := do
  let place ← disk.place path
  let location ← place.locate .isADirectory
  match disk.get? location with
  | none => throw .notFound
  | some node =>
    if place.slash then throw (if node.isDirectory then .isADirectory else .notADirectory)
    if disk.isSealed place.directory then throw .permissionDenied
    if node.isDirectory then throw .isADirectory
    return disk.erase location

/-- What keeps an entry from taking the place of another one. -/
def replaceError? (disk : Disk) (moved : Node) (target : Location) : Option IoError :=
  match disk.get? target with
  | none => none
  | some old =>
    match moved.isDirectory, old.isDirectory with
    | true, false => some .notADirectory
    | false, true => some .isADirectory
    | true, true => if (disk.children target).isEmpty then none else some .notEmpty
    | false, false => none

/-- Moves an entry to the place of a path, over what is there. -/
def renameFrom (disk : Disk) (source : Location) (path : Path) : Except IoError Disk := do
  let place ← disk.place path
  let target ← place.locate .busy
  match disk.get? source with
  | none => throw .notFound
  | some node =>
    if place.slash && !node.isDirectory then throw .notADirectory
    if source = target then return disk
    if source.isPrefixOf target then throw .invalidArgument
    if target.isPrefixOf source then throw .notEmpty
    if disk.isSealed place.directory || disk.isSealed source.dropLast then throw .permissionDenied
    match disk.replaceError? node target with
    | some error => throw error
    | none => return (disk.erase target).move source target

def rename (disk : Disk) (source target : Path) : Except IoError Disk := do
  checkNul source
  checkNul target
  let old ← disk.place source
  let new ← disk.place target
  if !new.isNamed then throw .busy
  let location ← old.locate .busy
  match disk.get? location with
  | none => throw .notFound
  | some node => if old.slash && !node.isDirectory then throw .notADirectory
  disk.renameFrom location target

def makeLink (disk : Disk) (path target : Path) : Except IoError Disk := do
  checkText target
  let place ← disk.place path
  let location ← place.locate .alreadyExists
  if (disk.get? location).isSome then throw .alreadyExists
  if place.slash then throw .notFound
  if disk.isSealed place.directory then throw .permissionDenied
  return disk.put location (.link target)

/-- Removes an entry, a directory with everything in it. A link is not followed. -/
def removeAll (disk : Disk) (path : Path) : Except IoError Disk := do
  match ← disk.spot .entry path with
  | .vacant _ _ => throw .notFound
  | .occupied location =>
    if location.isEmpty then throw .busy
    if disk.isSealed location.dropLast then throw .permissionDenied
    return disk.erase location

def setMode (disk : Disk) (path : Path) (mode : Nat) : Except IoError Disk := do
  let location ← disk.locate path
  match disk.get? location with
  | some (.directory _) => return disk.put location (.directory mode)
  | some (.file identity _ bytes) => return disk.put location (.file identity mode bytes)
  | _ => throw .notFound

/-! ## Reading -/

/-- Reading a directory fails only after it was opened. -/
inductive ReadError where
  | open (error : IoError)
  | read (error : IoError)
  deriving DecidableEq, Repr

def ReadError.error : ReadError → IoError
  | «open» error => error
  | read error => error

def readFile (disk : Disk) (path : Path) : Except ReadError Bytes :=
  match disk.locate path with
  | .error error => .error (.open error)
  | .ok location =>
    match disk.get? location with
    | some (.file _ _ bytes) => .ok bytes
    | some (.directory _) => .error (.read .isADirectory)
    | _ => .error (.open .notFound)

/-- The content of the file that a path names. -/
def content? (disk : Disk) (path : Path) : Option Bytes := (disk.readFile path).toOption

def readText (disk : Disk) (path : Path) : Except IoError String := do
  let bytes ← (disk.readFile path).mapError ReadError.error
  match Text.decode? bytes with
  | some text => return text
  | none => throw .notUtf8

/-- The paths of the entries of a directory, the oldest first. -/
def list (disk : Disk) (path : Path) : Except IoError (List Path) := do
  let location ← disk.locate path
  if !disk.isDirectoryAt location then throw .notADirectory
  return (disk.children location).map (Path.join path)

/-! ## Writing through a handle -/

/-- An open file and the place in it where the next octets go. -/
structure Handle where
  identity : Nat
  position : Nat
  deriving DecidableEq, Repr

/-- Opens a file that was not there before. -/
def createNew (disk : Disk) (path : Path) : Except IoError (Handle × Disk) := do
  let place ← disk.place path
  if place.slash then throw .isADirectory
  let location ← place.locate .isADirectory
  if (disk.get? location).isSome then throw .alreadyExists
  if disk.isSealed place.directory then throw .permissionDenied
  return (⟨disk.freshIdentity, 0⟩, disk.putNewFile location fileMode [])

/-- Octets put into a content at a place; what lies between is filled with zeros. -/
def overwrite (content : Bytes) (position : Nat) (bytes : Bytes) : Bytes :=
  content.take position ++ List.replicate (position - content.length) 0 ++ bytes ++
    content.drop (position + bytes.length)

def write (disk : Disk) (handle : Handle) (bytes : Bytes) : Handle × Disk :=
  (⟨handle.identity, handle.position + bytes.length⟩,
    if bytes.isEmpty then disk
    else disk.modifyFile handle.identity fun content => overwrite content handle.position bytes)

/-- Opens a file for writing, a new one if there is none; a link at the end is followed. -/
def openForWriting (disk : Disk) (path : Path) : Except IoError (Nat × Disk) := do
  match ← disk.spot .creation path with
  | .occupied location =>
    match disk.get? location with
    | some (.file identity _ _) => return (identity, disk)
    | some (.directory _) => throw .isADirectory
    | _ => throw .notFound
  | .vacant directory name =>
    if disk.isSealed directory then throw .permissionDenied
    return (disk.freshIdentity, disk.putNewFile (directory ++ [name]) fileMode [])

/-- Sets the content of a file, a new one if there is none. -/
def writeFile (disk : Disk) (path : Path) (bytes : Bytes) : Except IoError Disk := do
  let (identity, disk) ← disk.openForWriting path
  return disk.modifyFile identity fun _ => bytes

/-! ## Several steps -/

/-- A computation on a disk that keeps what was done before it failed. -/
abbrev Steps := ExceptT IoError (StateM Disk)

def Steps.of (step : Disk → Except IoError Disk) : Steps Unit := do
  match step (← get) with
  | .ok disk => set disk
  | .error error => throw error

/-- Makes a directory, and before it those above it that are missing. The paths go upward. -/
def makeDirectoriesUpTo : List Path → Steps Unit
  | [] => throw .notFound
  | path :: above => do
    if path.isEmpty then return
    let disk ← get
    match disk.makeDirectory path with
    | .ok disk => set disk
    | .error .notFound =>
      makeDirectoriesUpTo above
      let disk ← get
      match disk.makeDirectory path with
      | .ok disk => set disk
      | .error error => if disk.isDirectory path then return else throw error
    | .error error => if disk.isDirectory path then return else throw error

def makeDirectories (path : Path) : Steps Unit :=
  makeDirectoriesUpTo (Path.ancestors path)

/-- Makes a directory that only its owner may enter. -/
def makePrivateDirectory (path : Path) : Steps Unit := do
  makeDirectories path
  Steps.of (·.setMode path privateDirectoryMode)

/-- A name that a directory does not have. -/
def unusedNameWithin (taken : List String) : Nat → Nat → String
  | 0, n => s!".tmp{n}"
  | left + 1, n =>
    if taken.contains s!".tmp{n}" then unusedNameWithin taken left (n + 1) else s!".tmp{n}"

def unusedName (disk : Disk) (directory : Location) : String :=
  let taken := disk.children directory
  unusedNameWithin taken taken.length 0

/-- Replaces the file at a path as a whole: the content goes to a file beside it, which then takes
its place. That file does not outlive a failure. -/
def replaceFile (path : Path) (bytes : Bytes) : Steps Unit := do
  match Path.parent? path with
  | none => throw .noParent
  | some parent =>
    makeDirectories parent
    let disk ← get
    let directory ← if parent.isEmpty then pure disk.workingDirectory else disk.locate parent
    if disk.isSealed directory then throw .permissionDenied
    let staged := directory ++ [disk.unusedName directory]
    let disk := disk.putNewFile staged privateFileMode bytes
    let renamed := if path.toList.contains '\x00' then .error .invalidArgument
      else disk.renameFrom staged path
    match renamed with
    | .ok disk => set disk
    | .error error =>
      set (disk.erase staged)
      throw error

end SelfUpdate.Disk
