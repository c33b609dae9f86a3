import SelfUpdate.Sha256
import SelfUpdate.Text.Blank
import SelfUpdate.Text.Case
import SelfUpdate.World

/-!
# Digests of files
-/

namespace SelfUpdate.Digest

def pieceLength : Nat := 8192

/-- The pieces in which a content is read. -/
def piecesWithin : Nat → Bytes → List Bytes
  | 0, _ => []
  | fuel + 1, bytes =>
    if bytes.isEmpty then []
    else bytes.take pieceLength :: piecesWithin fuel (bytes.drop pieceLength)

def pieces (bytes : Bytes) : List Bytes :=
  piecesWithin (bytes.length / pieceLength + 1) bytes

/-- The digest of a content that comes in pieces. -/
def ofPieces (pieces : List Bytes) : String :=
  Sha256.hexText (pieces.foldl Sha256.Hasher.update .new).finish

structure Error where
  path : Path
  reason : Disk.ReadError
  deriving DecidableEq, Repr

def Error.message (error : Error) : String :=
  let action := match error.reason with
    | .open _ => "open"
    | .read _ => "read"
  "failed to " ++ action ++ " " ++ error.path ++ " for checksum: " ++ error.reason.error.message

/-- The digest of the file at a path. -/
def ofFile (disk : Disk) (path : Path) : Except Error String :=
  match disk.readFile path with
  | .ok bytes => .ok (ofPieces (pieces bytes))
  | .error reason => .error ⟨path, reason⟩

/-- Whether a file has a digest, up to letter case and blanks around it. A file that cannot be read
has none. -/
def verify (path : Path) (expected : String) : Effect Bool := do
  match ofFile (← get).disk path with
  | .ok actual => return Text.sameUpToCase actual (Text.trim expected)
  | .error error =>
    Effect.log .warn .digest ("Checksum verification could not read file: " ++ error.message)
    return false

end SelfUpdate.Digest
