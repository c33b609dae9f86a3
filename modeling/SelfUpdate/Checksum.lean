import SelfUpdate.Text.Blank
import SelfUpdate.Text.Case
import SelfUpdate.Text.Lines

/-!
# Checksums

A checksum is the SHA-256 digest of an artifact as 64 hexadecimal digits. Publishers list checksums
in a document: the bare digest alone, or a line for each file with its digest and its name.
-/

namespace SelfUpdate.Checksum

def hexLength : Nat := 64

/-- Whether a text is a digest in hexadecimal, of either case. -/
def isHex (text : List Char) : Bool :=
  text.length == hexLength && text.all Text.isHexDigit

def isHexText (text : String) : Bool := isHex text.toList

def isLowerHexDigit (c : Char) : Bool :=
  c.isDigit || ('a' ≤ c && c ≤ 'f')

/-- Whether a text is a digest as records hold it, in lowercase. -/
def isCanonical (text : String) : Bool :=
  text.toList.length == hexLength && text.toList.all isLowerHexDigit

theorem isLowerHexDigit_iff_toNat {c : Char} : isLowerHexDigit c = true ↔
    48 ≤ c.toNat ∧ c.toNat ≤ 57 ∨ 97 ≤ c.toNat ∧ c.toNat ≤ 102 := by
  have points : ('0'.toNat = 48 ∧ '9'.toNat = 57) ∧ 'a'.toNat = 97 ∧ 'f'.toNat = 102 := by decide
  simp only [isLowerHexDigit, Char.isDigit_iff_toNat, Bool.or_eq_true, Bool.and_eq_true,
    decide_eq_true_eq, Char.le_def, UInt32.le_iff_toNat_le, Char.toNat_val, points]

theorem isLowerHexDigit_toLower {c : Char} (hex : Text.isHexDigit c = true) :
    isLowerHexDigit c.toLower = true := by
  have bounds := Text.isHexDigit_iff_toNat.mp hex
  rw [isLowerHexDigit_iff_toNat, Text.toNat_toLower]
  split <;> omega

theorem isCanonical_lower {text : String} (hex : isHexText text = true) :
    isCanonical (Text.lower text) = true := by
  simp only [isHexText, isHex, Bool.and_eq_true, beq_iff_eq, List.all_eq_true] at hex
  simp only [isCanonical, Text.lower, String.toList_ofList, List.length_map, Bool.and_eq_true,
    beq_iff_eq, List.all_eq_true, List.mem_map]
  refine ⟨hex.1, ?_⟩
  rintro _ ⟨c, member, rfl⟩
  exact isLowerHexDigit_toLower (hex.2 c member)

/-- A text without the `./` at its front, however often it stands there. -/
def dropHere : List Char → List Char
  | '.' :: '/' :: rest => dropHere rest
  | text => text

/-- The name in an entry, without the marks of a binary file and of the current directory. -/
def entryName (word : List Char) : List Char :=
  dropHere (word.dropWhile (· == '*'))

/-- The digest that a line gives for an artifact. -/
def inLine? (artifact : List Char) (line : List Char) : Option (List Char) :=
  match Text.words line with
  | hash :: name :: _ => if entryName name = artifact ∧ isHex hash then some hash else none
  | _ => none

/-- The digest of the artifact that a document gives, in lowercase. -/
def ofDocument? (contents artifact : String) : Option String :=
  let text := contents.toList
  let found := match Text.words text with
    | [only] => if isHex only then some only else none
    | _ => none
  let found := match found with
    | some hash => some hash
    | none => (Text.lines text).findSome? (inLine? artifact.toList)
  found.map fun hash => Text.lower (String.ofList hash)

/-- The text before and after the first colon. -/
def splitColon? (text : List Char) : Option (List Char × List Char) :=
  match text.dropWhile (· != ':') with
  | [] => none
  | _ :: rest => some (text.takeWhile (· != ':'), rest)

/-- The digest in a field of the form `sha256:hex`, in lowercase. -/
def ofDigestField? (field : String) : Option String := do
  let (algorithm, hash) ← splitColon? field.toList
  if algorithm.map Char.toLower == ['s', 'h', 'a', '2', '5', '6'] && isHex hash then
    return Text.lower (String.ofList hash)
  none

end SelfUpdate.Checksum
