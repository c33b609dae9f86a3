import SelfUpdate.Json.Record
import SelfUpdate.Proofs.Json.Scalars

/-!
# The contents of fields

Every integer of a field's type is written exactly, and the field decodes what was written to it.
-/

namespace SelfUpdate.Json

theorem exact_ofNat {n : Nat} (fits : n < UInt64.size) : (Value.ofNat n).Exact :=
  .natural (Nat.le_pred_of_lt fits)

theorem asNatural32_ofNat (n : UInt32) : asNatural32 (.ofNat n.toNat) = .ok n := by
  rw [asNatural32, Value.ofNat, asNatural, if_pos n.toNat_lt, map_ok, UInt32.ofNat_toNat]

theorem asNatural64_ofNat (n : UInt64) : asNatural64 (.ofNat n.toNat) = .ok n := by
  rw [asNatural64, Value.ofNat, asNatural, if_pos n.toNat_lt, map_ok, UInt64.ofNat_toNat]

theorem asInteger64_ofInt (n : Int64) : asInteger64 (.ofInt n.toInt) = .ok n := by
  have low := n.le_toInt
  have high := n.toInt_lt
  have back : Int64.ofInt n.toInt = n := Int64.ofInt_toInt n
  generalize n.toInt = i at low high back
  cases i with
  | ofNat m =>
      rw [Int.ofNat_eq_natCast] at high
      have fits : m < 1 <<< 63 := by omega
      rw [Value.ofInt, asInteger64, if_pos fits]
      exact congrArg Except.ok back
  | negSucc m =>
      have fits : m < 1 <<< 63 := by omega
      rw [Value.ofInt, asInteger64, if_pos fits]
      exact congrArg Except.ok back

theorem exact_ofInt (n : Int64) : (Value.ofInt n.toInt).Exact := by
  have low := n.le_toInt
  have high := n.toInt_lt
  have bound : 1 <<< 63 ≤ greatestNatural := by decide
  generalize n.toInt = i at low high
  cases i with
  | ofNat m =>
      rw [Int.ofNat_eq_natCast] at high
      exact .natural (by omega)
  | negSucc m => exact .negative (by omega)

theorem orNull_string (s : String) : orNull asString (.string s) = .ok (some s) := rfl

theorem orNull_ofInt (n : Int64) : orNull asInteger64 (.ofInt n.toInt) = .ok (some n) := by
  have read := asInteger64_ofInt n
  cases written : n.toInt with
  | ofNat m =>
      rw [written] at read
      exact congrArg (Except.map some) read
  | negSucc m =>
      rw [written] at read
      exact congrArg (Except.map some) read

theorem Field.test_withDefault {α : Type} (key : String) {decode : Decoder α} {value : Value} {a : α}
    (decoded : decode value = .ok a) : (Field.withDefault key decode).test value = .ok () := by
  change (decode value).map _ = _
  rw [decoded, map_ok]

theorem Field.test_required {α : Type} (key : String) {decode : Decoder α} {value : Value} {a : α}
    (decoded : decode value = .ok a) : (Field.required key decode).test value = .ok () := by
  change (decode value).map _ = _
  rw [decoded, map_ok]

end SelfUpdate.Json
