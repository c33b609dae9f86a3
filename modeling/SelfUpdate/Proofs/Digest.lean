import Mathlib.Data.List.Basic
import SelfUpdate.Digest
import SelfUpdate.Proofs.Text.Trim
import SelfUpdate.Proofs.Text.Words
import SelfUpdate.Release.Update

/-!
# Digests of contents

A content that is read in pieces has the digest of the whole content, so verifying a file against a
canonical checksum is an equation between the checksum and the digest of its octets.
-/

namespace SelfUpdate

namespace Sha256

variable {s : State} {bytes : Bytes}

theorem absorbBlocks_short (short : bytes.length < 64) : absorbBlocks s bytes = (s, bytes) := by
  have none_ : bytes.drop 63 = [] := List.drop_eq_nil_of_le (by omega)
  rw [absorbBlocks]
  split
  · rfl
  · rename_i found
    rw [none_] at found
    cases found

theorem absorbBlocks_long (long : 64 ≤ bytes.length) :
    absorbBlocks s bytes = absorbBlocks (compress s (bytes.take 64)) (bytes.drop 64) := by
  rw [absorbBlocks]
  split
  · rename_i found
    have shorter := List.drop_eq_nil_iff.mp found
    omega
  · rename_i first rest found
    have next : bytes.drop 64 = rest := by
      rw [← List.tail_drop, found, List.tail_cons]
    rw [next]

/-- The whole blocks of a message may be taken in before the rest of it is there. -/
theorem absorbBlocks_append (s : State) (front back : Bytes) :
    absorbBlocks s (front ++ back) =
      absorbBlocks (absorbBlocks s front).1 ((absorbBlocks s front).2 ++ back) := by
  induction length : front.length using Nat.strongRecOn generalizing s front with
  | ind n ih =>
      by_cases long : 64 ≤ front.length
      · have whole : 64 ≤ (front ++ back).length := by
          rw [List.length_append]
          omega
        rw [absorbBlocks_long long, absorbBlocks_long whole, List.take_append_of_le_length long,
          List.drop_append_of_le_length long]
        exact ih (front.drop 64).length (by rw [List.length_drop]; omega) _ _ rfl
      · rw [absorbBlocks_short (Nat.not_le.mp long)]

namespace Hasher

variable {hasher : Hasher} {message : Bytes}

/-- A hasher has taken in a message: its whole blocks are in the state, and the rest is pending. -/
structure Took (hasher : Hasher) (message : Bytes) : Prop where
  absorbed : absorbBlocks .initial message = (hasher.state, hasher.pending)
  length : hasher.length = message.length

theorem took_new : Took new [] :=
  ⟨absorbBlocks_short (by decide), rfl⟩

theorem Took.update (took : hasher.Took message) (piece : Bytes) :
    (hasher.update piece).Took (message ++ piece) := by
  constructor
  · rw [absorbBlocks_append, took.absorbed]
    rfl
  · rw [List.length_append, ← took.length]
    rfl

/-- How a message is divided into pieces does not show afterwards. -/
theorem Took.foldl_update (took : hasher.Took message) (pieces : List Bytes) :
    (pieces.foldl Hasher.update hasher).Took (message ++ pieces.flatten) := by
  induction pieces generalizing hasher message with
  | nil => simpa using took
  | cons piece rest ih =>
      rw [List.foldl_cons, List.flatten_cons, ← List.append_assoc]
      exact ih (took.update piece)

theorem Took.finish (took : hasher.Took message) : hasher.finish = digest message := by
  rw [Hasher.finish, digest, absorbBlocks_append .initial message, took.absorbed, took.length]

end Hasher

theorem isLowerHexDigit_digitChar {n : Nat} (small : n < 16) :
    Checksum.isLowerHexDigit (Nat.digitChar n) = true := by
  revert n
  decide

theorem isLowerHexDigit_of_mem_hexText {c : Char} (member : c ∈ (hexText bytes).toList) :
    Checksum.isLowerHexDigit c = true := by
  rw [hexText, String.toList_ofList, List.mem_flatMap] at member
  obtain ⟨byte, -, member⟩ := member
  have bound := byte.toNat_lt
  simp only [hexChars, List.mem_cons, List.not_mem_nil, or_false] at member
  rcases member with rfl | rfl
  · exact isLowerHexDigit_digitChar (by omega)
  · exact isLowerHexDigit_digitChar (by omega)

theorem length_digest (message : Bytes) : (digest message).length = 32 := by
  simp [digest, octetsOf]

/-- A digest is a canonical checksum. -/
theorem isCanonical_hexDigest (message : Bytes) :
    Checksum.isCanonical (hexDigest message) = true := by
  have digits : (hexDigest message).toList.all Checksum.isLowerHexDigit = true := by
    rw [List.all_eq_true]
    intro c member
    exact isLowerHexDigit_of_mem_hexText member
  have length : (hexDigest message).toList.length = 64 := by
    rw [hexDigest, hexText, String.toList_ofList, List.length_flatMap]
    simp [hexChars, length_digest]
  rw [Checksum.isCanonical, Bool.and_eq_true, beq_iff_eq]
  exact ⟨length, digits⟩

end Sha256

namespace Checksum

theorem toLower_of_isLowerHexDigit {c : Char} (digit : isLowerHexDigit c = true) :
    c.toLower = c := by
  have bounds := isLowerHexDigit_iff_toNat.mp digit
  rw [← Char.toNat_inj, Text.toNat_toLower, if_neg (by omega)]

theorem not_isBlank_of_isLowerHexDigit {c : Char} (digit : isLowerHexDigit c = true) :
    Text.isBlank c = false := by
  have bounds := isLowerHexDigit_iff_toNat.mp digit
  exact Text.isBlank_of_visible (by omega) (by omega)

theorem digits_of_isCanonical {text : String} (canonical : isCanonical text = true) :
    text.toList.all isLowerHexDigit = true := by
  rw [isCanonical, Bool.and_eq_true] at canonical
  exact canonical.2

/-- A canonical checksum has no blanks around it. -/
theorem trim_of_isCanonical {text : String} (canonical : isCanonical text = true) :
    Text.trim text = text := by
  have solid : ∀ c ∈ text.toList, Text.isBlank c = false := fun c listed =>
    not_isBlank_of_isLowerHexDigit (List.all_eq_true.mp (digits_of_isCanonical canonical) c listed)
  rw [Text.trim, Text.trimBlanks_of_trimmed (.of_solid solid), String.ofList_toList]

theorem map_toLower {text : List Char} (digits : text.all isLowerHexDigit = true) :
    text.map Char.toLower = text := by
  rw [List.all_eq_true] at digits
  rw [List.map_congr_left fun c member => toLower_of_isLowerHexDigit (digits c member),
    List.map_id']

end Checksum

namespace Digest

/-- What the reads of a content may bring. Each takes a piece off its front that is not empty and no
longer than asked for, until nothing is left. -/
inductive Reads : Bytes → List Bytes → Prop where
  | done : Reads [] []
  | more {piece rest : Bytes} {pieces : List Bytes} (some : piece ≠ [])
      (fits : piece.length ≤ pieceLength) (later : Reads rest pieces) :
      Reads (piece ++ rest) (piece :: pieces)

theorem Reads.flatten {content : Bytes} {pieces : List Bytes} (reads : Reads content pieces) :
    pieces.flatten = content := by
  induction reads with
  | done => rfl
  | more some fits later ih => rw [List.flatten_cons, ih]

/-- Pieces that are not empty, none longer than a read asks for, are reads of what they make up. -/
theorem reads_flatten {pieces : List Bytes}
    (each : ∀ piece ∈ pieces, piece ≠ [] ∧ piece.length ≤ pieceLength) :
    Reads pieces.flatten pieces := by
  induction pieces with
  | nil => exact .done
  | cons piece pieces ih =>
      rw [List.forall_mem_cons] at each
      exact .more each.1.1 each.1.2 (ih each.2)

theorem reads_piecesWithin (fuel : Nat) (bytes : Bytes)
    (enough : bytes.length < fuel * pieceLength + 1) : Reads bytes (piecesWithin fuel bytes) := by
  induction fuel generalizing bytes with
  | zero =>
      obtain rfl : bytes = [] := List.eq_nil_of_length_eq_zero (by omega)
      exact .done
  | succ fuel ih =>
      rw [piecesWithin]
      split
      · rename_i nothing
        obtain rfl := List.isEmpty_iff.mp nothing
        exact .done
      · rename_i filled
        have shorter : (bytes.drop pieceLength).length < fuel * pieceLength + 1 := by
          rw [List.length_drop, pieceLength] at *
          omega
        have some : bytes.take pieceLength ≠ [] := by
          rw [pieceLength, ne_eq, List.take_eq_nil_iff]
          simpa using filled
        have first := Reads.more some (List.length_take_le _ _) (ih _ shorter)
        rwa [List.take_append_drop] at first

/-- Reads that bring all that was asked for. -/
theorem reads_pieces (bytes : Bytes) : Reads bytes (pieces bytes) :=
  reads_piecesWithin _ _ (by rw [pieceLength]; omega)

/-- The digest of pieces is that of the whole. -/
theorem ofPieces_eq (pieces : List Bytes) : ofPieces pieces = Sha256.hexDigest pieces.flatten := by
  have took := Sha256.Hasher.took_new.foldl_update pieces
  rw [ofPieces, took.finish, List.nil_append, Sha256.hexDigest]

/-- Reading in pieces loses nothing, whatever the pieces are. -/
theorem Reads.ofPieces_eq {content : Bytes} {pieces : List Bytes} (reads : Reads content pieces) :
    ofPieces pieces = Sha256.hexDigest content := by
  rw [Digest.ofPieces_eq, reads.flatten]

theorem ofPieces_pieces (bytes : Bytes) : ofPieces (pieces bytes) = Sha256.hexDigest bytes :=
  (reads_pieces bytes).ofPieces_eq

/-- Verification finds the canonical checksum of the content. -/
theorem sameUpToCase_iff {bytes : Bytes} {checksum : String}
    (canonical : Checksum.isCanonical checksum = true) :
    Text.sameUpToCase (ofPieces (pieces bytes)) (Text.trim checksum) = true ↔
      Sha256.hexDigest bytes = checksum := by
  have own := Checksum.digits_of_isCanonical (Sha256.isCanonical_hexDigest bytes)
  have digits := Checksum.digits_of_isCanonical canonical
  rw [ofPieces_pieces, Checksum.trim_of_isCanonical canonical, Text.sameUpToCase,
    Checksum.map_toLower own, Checksum.map_toLower digits, beq_iff_eq, String.toList_inj]

/-- The file at a path has a digest. -/
def Holds (disk : Disk) (path : Path) (checksum : String) : Prop :=
  ∃ bytes, disk.content? path = some bytes ∧ Sha256.hexDigest bytes = checksum

/-- What verification answers. A file that cannot be read has no digest. -/
theorem holds_iff {disk : Disk} {path : Path} {checksum : String}
    (canonical : Checksum.isCanonical checksum = true) :
    Holds disk path checksum ↔ ∃ actual, ofFile disk path = .ok actual ∧
      Text.sameUpToCase actual (Text.trim checksum) = true := by
  rw [Holds, Disk.content?, ofFile]
  cases disk.readFile path with
  | error reason => simp [Except.toOption]
  | ok bytes =>
      constructor
      · rintro ⟨_, found, same⟩
        cases found
        exact ⟨_, rfl, (sameUpToCase_iff canonical).mpr same⟩
      · rintro ⟨_, found, same⟩
        cases found
        exact ⟨bytes, rfl, (sameUpToCase_iff canonical).mp same⟩

end Digest

end SelfUpdate
