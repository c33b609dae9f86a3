/-!
# Letter case

Letter case is compared and changed in ASCII only; all other characters stand for themselves.
-/

namespace SelfUpdate.Text

def lower (text : String) : String :=
  String.ofList (text.toList.map Char.toLower)

def sameUpToCase (a b : String) : Bool :=
  a.toList.map Char.toLower == b.toList.map Char.toLower

theorem toNat_toLower (c : Char) :
    c.toLower.toNat = if 65 ≤ c.toNat ∧ c.toNat ≤ 90 then c.toNat + 32 else c.toNat := by
  have points : 'A'.val.toNat = 65 ∧ 'Z'.val.toNat = 90 ∧ ('a'.val - 'A'.val).toNat = 32 := by
    decide
  delta Char.toLower
  simp only [ge_iff_le, UInt32.le_iff_toNat_le, points, Char.toNat]
  split
  · rw [UInt32.toNat_add, points.2.2]
    omega
  · rfl

theorem toNat_toUpper (c : Char) :
    c.toUpper.toNat = if 97 ≤ c.toNat ∧ c.toNat ≤ 122 then c.toNat - 32 else c.toNat := by
  have points : 'a'.val.toNat = 97 ∧ 'z'.val.toNat = 122 ∧
      ('A'.val - 'a'.val).toNat = 4294967264 := by decide
  delta Char.toUpper
  simp only [UInt32.le_iff_toNat_le, points, Char.toNat]
  split
  · rw [UInt32.toNat_add, points.2.2]
    omega
  · rfl

/-- The hexadecimal digits, in either case. -/
def isHexDigit (c : Char) : Bool :=
  c.isDigit || ('a' ≤ c && c ≤ 'f') || ('A' ≤ c && c ≤ 'F')

theorem isHexDigit_iff_toNat {c : Char} : isHexDigit c = true ↔
    (48 ≤ c.toNat ∧ c.toNat ≤ 57 ∨ 97 ≤ c.toNat ∧ c.toNat ≤ 102) ∨
      65 ≤ c.toNat ∧ c.toNat ≤ 70 := by
  have points : ('0'.toNat = 48 ∧ '9'.toNat = 57) ∧ ('a'.toNat = 97 ∧ 'f'.toNat = 102) ∧
      'A'.toNat = 65 ∧ 'F'.toNat = 70 := by
    decide
  simp only [isHexDigit, Char.isDigit_iff_toNat, Bool.or_eq_true, Bool.and_eq_true,
    decide_eq_true_eq, Char.le_def, UInt32.le_iff_toNat_le, Char.toNat_val, points]

/-- The value of a hexadecimal digit. -/
def hexValue? (c : Char) : Option Nat :=
  if c.isDigit then some (c.toNat - '0'.toNat)
  else if 'a' ≤ c ∧ c ≤ 'f' then some (c.toNat - 'a'.toNat + 10)
  else if 'A' ≤ c ∧ c ≤ 'F' then some (c.toNat - 'A'.toNat + 10)
  else none

end SelfUpdate.Text
