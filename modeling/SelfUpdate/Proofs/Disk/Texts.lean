import SelfUpdate.Disk.Operation
import SelfUpdate.Proofs.Computation

/-!
# Files with text in them

A file is read as a text exactly when it holds the octets of that text.
-/

namespace SelfUpdate

namespace Text

variable {bytes : Bytes} {text : String}

theorem decode?_encode (text : String) : decode? (encode text) = some text := by
  have octets : (⟨(encode text).toArray⟩ : ByteArray) = text.toByteArray := by
    rw [encode, Array.toArray_toList, String.toUTF8_eq_toByteArray]
  rw [decode?, octets, String.fromUTF8?, dif_pos text.isValidUTF8]
  rfl

theorem decode?_eq_some_iff : decode? bytes = some text ↔ bytes = encode text := by
  constructor
  · intro decoded
    rw [decode?, String.fromUTF8?] at decoded
    split at decoded
    · obtain rfl := Option.some.inj decoded
      rw [encode, String.toUTF8_eq_toByteArray]
      rfl
    · cases decoded
  · rintro rfl
    exact decode?_encode text

end Text

namespace Disk

variable {disk : Disk} {path : Path} {bytes : Bytes} {text : String}

theorem readText_eq_ok_iff :
    disk.readText path = .ok text ↔ disk.readFile path = .ok (Text.encode text) := by
  rw [readText, bind_eq_ok_iff]
  simp only [mapError_eq_ok_iff]
  constructor
  · rintro ⟨bytes, read, decoded⟩
    split at decoded
    · rename_i found told
      cases decoded
      rw [read, Text.decode?_eq_some_iff.mp told]
    · cases decoded
  · intro read
    refine ⟨_, read, ?_⟩
    rw [Text.decode?_encode]
    rfl

theorem readText_of_binary (read : disk.readFile path = .ok bytes)
    (binary : ∀ text, bytes ≠ Text.encode text) : disk.readText path = .error .notUtf8 := by
  have undecoded : Text.decode? bytes = none := by
    rw [Option.eq_none_iff_forall_ne_some]
    exact fun text decoded => binary text (Text.decode?_eq_some_iff.mp decoded)
  rw [readText, read, mapError_ok, ok_bind, undecoded]
  rfl

end Disk

end SelfUpdate
