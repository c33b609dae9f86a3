/-!
# Paths

A path is a text whose pieces are separated by slashes. Empty pieces and single dots stand for
nothing, save a dot that begins a relative path; they are kept in the text where they are not at its
end.
-/

namespace SelfUpdate

abbrev Path := String

namespace Path

def isAbsolute (path : Path) : Bool := path.toList.head? == some '/'

/-- The pieces of a path. An absolute path begins with an empty one. -/
def pieces (path : Path) : List String :=
  (path.toList.splitOn '/').map String.ofList

/-- The pieces after the leading slash. -/
def body (path : Path) : List String :=
  if isAbsolute path then (pieces path).tail else pieces path

/-- Whether a piece names nothing; `first` says that it begins a relative path. -/
def isIdle (first : Bool) (piece : String) : Bool :=
  piece.isEmpty || (piece == "." && !first)

/-- Pieces in reverse order, without the idle ones at the end of the path. -/
def dropIdle (absolute : Bool) : List String → List String
  | [] => []
  | piece :: before =>
    if isIdle (before.isEmpty && !absolute) piece then dropIdle absolute before
    else piece :: before

def ofReversed (absolute : Bool) (reversed : List String) : Path :=
  (if absolute then "/" else "") ++ "/".intercalate reversed.reverse

/-- The path without its last component; a root and an empty path have none. -/
def parent? (path : Path) : Option Path :=
  let absolute := isAbsolute path
  match dropIdle absolute (body path).reverse with
  | [] => none
  | _ :: before => some (ofReversed absolute (dropIdle absolute before))

/-- The last component of a path, when it is a name. -/
def fileName? (path : Path) : Option String :=
  match dropIdle (isAbsolute path) (body path).reverse with
  | [] => none
  | last :: _ => if last = "." ∨ last = ".." then none else some last

/-- A path below another one; an absolute path stands for itself. -/
def join (base child : Path) : Path :=
  if isAbsolute child then child
  else if base.isEmpty ∨ base.toList.getLast? = some '/' then base ++ child
  else base ++ "/" ++ child

/-- A path and all its parents, from the path up; every parent is shorter. -/
def ancestorsWithin : Nat → Path → List Path
  | 0, _ => []
  | fuel + 1, path =>
    match parent? path with
    | none => [path]
    | some parent => path :: ancestorsWithin fuel parent

def ancestors (path : Path) : List Path :=
  ancestorsWithin (path.length + 1) path

/-- Whether a text is a single component that names an entry of its directory. -/
def isName (text : String) : Bool :=
  !text.isEmpty && text != "." && text != ".." && !text.toList.contains '/'

end Path

end SelfUpdate
