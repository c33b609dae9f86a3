import SelfUpdate.Release.Error

/-!
# Version codes

Releases are ordered by a code. A dotted version has as its code the number in its second segment.
-/

namespace SelfUpdate.Release

/-- A number in decimal digits, at least one. -/
def decimalValue? (digits : List Char) : Option Nat :=
  if digits.isEmpty || !digits.all Char.isDigit then none
  else some (digits.foldl (fun n d => n * 10 + (d.toNat - '0'.toNat)) 0)

/-- A number of 32 bits, which one plus sign may precede. -/
def codeOfSegment? (segment : List Char) : Option UInt32 := do
  let digits := match segment with
    | '+' :: rest => rest
    | _ => segment
  let n ← decimalValue? digits
  if n < UInt32.size then return UInt32.ofNat n
  none

def codeOfVersion (version : String) : Except Error UInt32 :=
  match (version.toList.splitOn '.')[1]?.bind codeOfSegment? with
  | some code => .ok code
  | none => .error (.versionCode version)

end SelfUpdate.Release
