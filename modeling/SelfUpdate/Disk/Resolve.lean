import SelfUpdate.Disk.Basic

/-!
# Finding what a path names

A path is followed piece by piece. A link on the way is replaced by its target, at most forty times
in all.
-/

namespace SelfUpdate.Disk

def greatestNameLength : Nat := 255

def greatestPathLength : Nat := 4095

def greatestLinkCount : Nat := 40

/-- Where a path leads: to an entry, or to a name that its directory does not have. -/
inductive Spot where
  | occupied (location : Location)
  | vacant (directory : Location) (name : String)
  deriving DecidableEq, Repr

def isTooLong (name : String) : Bool := name.utf8ByteSize > greatestNameLength

/-- Where a path starts from. -/
def origin (base : Location) (path : Path) : Location :=
  if Path.isAbsolute path then [] else base

/-- What a path is followed for. -/
inductive Purpose where
  /-- The entry itself, which may be a link. -/
  | entry
  /-- What a link in the last place leads to. -/
  | target
  /-- The same, where a file is made if there is none. -/
  | creation
  deriving DecidableEq, Repr

/-- Whether nothing but slashes follows a name. -/
def endsInSlash (rest : List String) : Bool := !rest.isEmpty && rest.all String.isEmpty

/-- Follows pieces from a location. A file to be made cannot have a slash behind its name. -/
def walk (disk : Disk) (purpose : Purpose) (links : Nat) (location : Location) :
    List String → Except IoError Spot
  | [] => .ok (.occupied location)
  | piece :: rest =>
    if !disk.isDirectoryAt location then .error .notADirectory
    else if piece = "" ∨ piece = "." then walk disk purpose links location rest
    else if piece = ".." then walk disk purpose links location.dropLast rest
    else if purpose = .creation && endsInSlash rest then .error .isADirectory
    else if isTooLong piece then .error .nameTooLong
    else
      match disk.get? (location ++ [piece]) with
      | none => if rest.isEmpty then .ok (.vacant location piece) else .error .notFound
      | some (.link target) =>
        if rest.isEmpty && purpose = .entry then .ok (.occupied (location ++ [piece]))
        else
          match links with
          | 0 => .error .tooManyLinks
          | left + 1 =>
            walk disk purpose left (origin location target) (Path.pieces target ++ rest)
      | some _ => walk disk purpose links (location ++ [piece]) rest
  termination_by pieces => (links, pieces.length)

def checkNul (path : Path) : Except IoError Unit :=
  if path.toList.contains '\x00' then .error .nulInName else .ok ()

/-- What has to hold of the text of a path. -/
def checkText (path : Path) : Except IoError Unit := do
  checkNul path
  if path.isEmpty then throw .notFound
  if path.utf8ByteSize > greatestPathLength then throw .nameTooLong

def spot (disk : Disk) (purpose : Purpose) (path : Path) : Except IoError Spot := do
  checkText path
  walk disk purpose greatestLinkCount (origin disk.workingDirectory path) (Path.pieces path)

/-- The location of the entry that a path names. -/
def locate (disk : Disk) (path : Path) : Except IoError Location := do
  match ← disk.spot .target path with
  | .occupied location => return location
  | .vacant _ _ => throw .notFound

/-- The entry that a path names. -/
def node? (disk : Disk) (path : Path) : Option Node :=
  (disk.locate path).toOption.bind disk.get?

def isDirectory (disk : Disk) (path : Path) : Bool := (disk.node? path).any Node.isDirectory

def isFile (disk : Disk) (path : Path) : Bool := (disk.node? path).any Node.isFile

def mode? (disk : Disk) (path : Path) : Option Nat := (disk.node? path).bind Node.mode?

/-- The last piece of a path. -/
inductive Last where
  | root
  | dots
  | name (text : String)
  deriving DecidableEq, Repr

/-- The place that a path gives to an entry, which need not be there: its directory, the last piece,
and whether a slash follows it. -/
structure Place where
  directory : Location
  last : Last
  slash : Bool
  deriving DecidableEq, Repr

/-- The location of the entry; `unnamed` is the error when the last piece is no name. -/
def Place.locate (place : Place) (unnamed : IoError) : Except IoError Location :=
  match place.last with
  | .name text =>
    if isTooLong text then .error .nameTooLong else .ok (place.directory ++ [text])
  | _ => .error unnamed

def Place.isNamed (place : Place) : Bool :=
  match place.last with
  | .name _ => true
  | _ => false

/-- The place of a path. All of it but the last piece has to be there. -/
def place (disk : Disk) (path : Path) : Except IoError Place := do
  checkText path
  let start := origin disk.workingDirectory path
  match (Path.pieces path).reverse.dropWhile String.isEmpty with
  | [] => return ⟨[], .root, true⟩
  | last :: before =>
    let slash := path.toList.getLast? == some '/'
    match ← walk disk .target greatestLinkCount start before.reverse with
    | .vacant _ _ => throw .notFound
    | .occupied directory =>
      if !disk.isDirectoryAt directory then throw .notADirectory
      else if last = "." ∨ last = ".." then return ⟨directory, .dots, slash⟩
      else return ⟨directory, .name last, slash⟩

/-- The path of a location from the root. -/
def pathOf (location : Location) : Path :=
  if location.isEmpty then "/" else String.join (location.map ("/" ++ ·))

/-- The path from the root, without links, of what a path names. -/
def canonical (disk : Disk) (path : Path) : Except IoError Path := do
  return pathOf (← disk.locate path)

end SelfUpdate.Disk
