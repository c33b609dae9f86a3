import SelfUpdate.Text.Case
import SelfUpdate.Text.Utf8

/-!
# Addresses

A text is read as an absolute address: a scheme, the host behind two slashes, and what follows the
host. The normal form has the scheme and the host in lowercase, no service number that the scheme
has anyway, no dot segments, and escapes for characters that an address does not hold. It names no
user. A host is given in ASCII.
-/

namespace SelfUpdate.Network

structure Address where
  scheme : String
  host : Option String
  /-- The normal form. -/
  text : String
  deriving DecidableEq, Repr

namespace Address

/-- The service number of a scheme whose addresses always have a host. -/
def serviceNumber? : String → Option Nat
  | "http" | "ws" => some 80
  | "https" | "wss" => some 443
  | "ftp" => some 21
  | _ => none

def isSlash (c : Char) : Bool := c = '/' || c = '\\'

/-- Whether a character ends the part of the host. -/
def endsHost (c : Char) : Bool := isSlash c || c = '?' || c = '#'

/-- The text without blanks and control characters around it, and without line ends and tabs. -/
def cleaned (text : String) : List Char :=
  let isIdle (c : Char) := c ≤ ' '
  (((text.toList.dropWhile isIdle).reverse.dropWhile isIdle).reverse).filter
    fun c => c ≠ '\t' && c ≠ '\n' && c ≠ '\r'

def isSchemeChar (c : Char) : Bool := c.isAlphanum || c = '+' || c = '-' || c = '.'

/-- The scheme and what follows its colon. -/
def splitScheme? (text : List Char) : Option (String × List Char) :=
  match text.takeWhile isSchemeChar, text.dropWhile isSchemeChar with
  | first :: name, ':' :: rest =>
    if first.isAlpha then some (Text.lower (String.ofList (first :: name)), rest) else none
  | _, _ => none

/-! ## Escapes -/

def escapeOctet (octet : UInt8) : List Char :=
  ['%', (Nat.digitChar (octet.toNat / 16)).toUpper, (Nat.digitChar (octet.toNat % 16)).toUpper]

/-- The characters with an escape for those that are to have one. -/
def escape (isUnsafe : Char → Bool) (text : List Char) : List Char :=
  text.flatMap fun c =>
    if c ≤ '\x1f' || c ≥ '\x7f' || isUnsafe c then
      (Text.encode c.toString).flatMap escapeOctet
    else [c]

def unsafeInQuery (c : Char) : Bool := [' ', '"', '#', '<', '>', '\''].contains c

def unsafeInFragment (c : Char) : Bool := [' ', '"', '<', '>', '\x60'].contains c

def unsafeInPath (c : Char) : Bool :=
  [' ', '"', '#', '<', '>', '?', '\x60', '\x7b', '\x7d', '^'].contains c

/-! ## Host -/

/-- A character that no host has. -/
def isForbidden (c : Char) : Bool :=
  c ≤ ' ' || c ≥ '\x7f' ||
    ['#', '/', ':', '<', '>', '?', '@', '[', '\\', ']', '^', '|', '%'].contains c

def isIpv6Char (c : Char) : Bool :=
  c.isDigit || ('a' ≤ c && c ≤ 'f') || ('A' ≤ c && c ≤ 'F') || c = ':' || c = '.'

def host? (text : List Char) : Option String :=
  let host := Text.lower (String.ofList text)
  match text with
  | [] => none
  | '[' :: inner =>
    if inner.getLast? = some ']' && inner.dropLast.all isIpv6Char && inner.length > 2 then some host
    else none
  | _ => if text.any isForbidden then none else some host

/-- The host and the service number behind it, which is left out when the scheme has it anyway. -/
def hostAndService? (standard : Nat) (text : List Char) : Option String :=
  let (host, digits) :=
    match text.reverse.span Char.isDigit with
    | (digits, ':' :: host) => (host.reverse, digits.reverse)
    | _ => (text, [])
  let number := digits.foldl (fun n digit => 10 * n + (digit.toNat - '0'.toNat)) 0
  if number ≥ UInt16.size then none
  else
    (host? host).map fun host =>
      if digits.isEmpty || number = standard then host else s!"{host}:{number}"

/-- The part of the host without the name of a user, which ends in an at sign. -/
def withoutUser (text : List Char) : List Char :=
  (text.reverse.takeWhile (· ≠ '@')).reverse

/-! ## Path -/

/-- The segments of a path without those that name nothing or the segment before. -/
def resolveDots (resolved : List (List Char)) : List (List Char) → List (List Char)
  | [] => resolved.reverse
  | ['.'] :: [] => ([] :: resolved).reverse
  | ['.', '.'] :: [] => ([] :: resolved.tail).reverse
  | ['.'] :: rest => resolveDots resolved rest
  | ['.', '.'] :: rest => resolveDots resolved.tail rest
  | segment :: rest => resolveDots (segment :: resolved) rest

def pathText (path : List Char) : List Char :=
  let segments := (path.map fun c => if c = '\\' then '/' else c).splitOn '/'
  (resolveDots [] (if segments.length > 1 then segments.tail else segments)).flatMap fun segment =>
    '/' :: escape unsafeInPath segment

/-- Path, query and fragment, each with its mark. -/
def tailText (text : List Char) (path : List Char → List Char) : List Char :=
  let isMark (c : Char) := c = '?' || c = '#'
  let query := match (text.dropWhile (! isMark ·)).takeWhile (· ≠ '#') with
    | [] => []
    | mark :: query => mark :: escape unsafeInQuery query
  let fragment := match text.dropWhile (· ≠ '#') with
    | [] => []
    | mark :: fragment => mark :: escape unsafeInFragment fragment
  path (text.takeWhile (! isMark ·)) ++ query ++ fragment

/-! ## Addresses -/

def parse? (text : String) : Option Address := do
  let (scheme, rest) ← splitScheme? (cleaned text)
  match serviceNumber? scheme with
  | none =>
    return ⟨scheme, none, scheme ++ ":" ++ String.ofList (tailText rest (escape fun _ => false))⟩
  | some standard =>
    let rest := rest.dropWhile isSlash
    let host ← hostAndService? standard (withoutUser (rest.takeWhile (! endsHost ·)))
    let tail := String.ofList (tailText (rest.dropWhile (! endsHost ·)) pathText)
    return ⟨scheme, some host, scheme ++ "://" ++ host ++ tail⟩

/-- Whether an address can be asked over HTTP. -/
def isWeb (address : Address) : Bool :=
  address.scheme = "http" || address.scheme = "https"

end Address

end SelfUpdate.Network
