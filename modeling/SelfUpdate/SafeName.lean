import SelfUpdate.Text.Blank

/-!
# Safe file names

Any text becomes the name of one file in a given directory: the last segment that is not empty,
where slashes and backslashes separate segments, without pairs of dots and without blanks at its
ends.
-/

namespace SelfUpdate

def isSeparator (c : Char) : Bool := c == '/' || c == '\\'

/-- A text without its pairs of dots, taken from the left. -/
def dropDotPairs : List Char → List Char
  | '.' :: '.' :: rest => dropDotPairs rest
  | c :: rest => c :: dropDotPairs rest
  | [] => []

def safeSegment (segment : List Char) : List Char :=
  Text.trimBlanks (dropDotPairs segment)

def safeNameChars (raw : List Char) : List Char :=
  let segments := (raw.splitOnP isSeparator).reverse.map safeSegment
  (segments.find? (fun segment => !segment.isEmpty)).getD []

def safeName (raw : String) : String :=
  String.ofList (safeNameChars raw.toList)

end SelfUpdate
