import Mathlib.Data.List.Forall2
import SelfUpdate.Proofs.Computation
import SelfUpdate.Proofs.Digest
import SelfUpdate.Proofs.Disk.Rereading
import SelfUpdate.Proofs.Download.Integrity

/-!
# Digests of contents that come in pieces

A content is read in pieces, and every read may bring less than was asked for. The digest is the same
for all of that: SHA-256 of the content, which is made from the blocks of the whole padded message. A
file is verified against the text of its digest in any letter case and with blanks around it.
-/

namespace SelfUpdate

/-! ## Blocks -/

namespace Sha256

variable {message bytes : Bytes} {blocks : List Bytes}

/-- The blocks of a message have 64 octets each. They hold the message, the octet `0x80`, no more
zeros than are needed, and the length of the message in bits. -/
structure Padded (message : Bytes) (blocks : List Bytes) : Prop where
  whole : ∀ block ∈ blocks, block.length = 64
  filled : ∃ zeros < 64, blocks.flatten =
    message ++ (0x80 :: List.replicate zeros 0 ++ octets64 (8 * message.length))

theorem length_flatten (whole : ∀ block ∈ blocks, block.length = 64) :
    blocks.flatten.length = 64 * blocks.length := by
  induction blocks with
  | nil => rfl
  | cons block blocks ih =>
      rw [List.forall_mem_cons] at whole
      rw [List.flatten_cons, List.length_append, whole.1, ih whole.2, List.length_cons]
      omega

/-- Octets that fill blocks are cut into them. -/
theorem exists_blocks (count : Nat) (fills : bytes.length = 64 * count) :
    ∃ blocks : List Bytes, (∀ block ∈ blocks, block.length = 64) ∧ blocks.flatten = bytes := by
  induction count generalizing bytes with
  | zero => exact ⟨[], by simp, (List.eq_nil_of_length_eq_zero fills).symm⟩
  | succ count ih =>
      have front : (bytes.take 64).length = 64 := by
        rw [List.length_take]
        omega
      have back : (bytes.drop 64).length = 64 * count := by
        rw [List.length_drop]
        omega
      obtain ⟨blocks, whole, parts⟩ := ih back
      refine ⟨bytes.take 64 :: blocks, List.forall_mem_cons.mpr ⟨front, whole⟩, ?_⟩
      rw [List.flatten_cons, parts, List.take_append_drop]

/-- Blocks are taken in one after the other, and nothing is left of them. -/
theorem absorbBlocks_flatten (whole : ∀ block ∈ blocks, block.length = 64) (s : State) :
    absorbBlocks s blocks.flatten = (blocks.foldl compress s, []) := by
  induction blocks generalizing s with
  | nil => exact absorbBlocks_short (by decide)
  | cons block blocks ih =>
      rw [List.forall_mem_cons] at whole
      have long : 64 ≤ (block ++ blocks.flatten).length := by
        rw [List.length_append]
        omega
      rw [List.flatten_cons, absorbBlocks_long long, List.take_left' whole.1,
        List.drop_left' whole.1, ih whole.2, List.foldl_cons]

theorem length_padding (zeros length : Nat) :
    ((0x80 :: List.replicate zeros 0 ++ octets64 (8 * length) : Bytes)).length = 1 + zeros + 8 := by
  simp [octets64]
  omega

theorem exists_padded (message : Bytes) : ∃ blocks, Padded message blocks := by
  have fills : (message ++ padding message.length).length =
      64 * ((message ++ padding message.length).length / 64) := by
    rw [List.length_append, padding, length_padding]
    omega
  obtain ⟨blocks, whole, parts⟩ := exists_blocks _ fills
  exact ⟨blocks, whole, _, Nat.mod_lt _ (by decide), parts⟩

/-- The digest of a message is what its blocks make of the initial state. -/
theorem Padded.digest_eq (padded : Padded message blocks) :
    digest message = octetsOf (blocks.foldl compress .initial) := by
  obtain ⟨zeros, few, filled⟩ := padded.filled
  -- the blocks are whole, and only one number of zeros below 64 makes them so
  have exact : zeros = (119 - message.length % 64) % 64 := by
    have length := length_flatten padded.whole
    rw [filled, List.length_append, length_padding] at length
    omega
  have whole : message ++ padding message.length = blocks.flatten := by
    rw [filled, padding, exact]
  rw [digest, whole, absorbBlocks_flatten padded.whole]

/-- Octets in hexadecimal: two digits for each, the upper half first. -/
inductive Hex : List Char → Bytes → Prop where
  | nil : Hex [] []
  | octet {upper lower : Char} {octet : UInt8} {text : List Char} {octets : Bytes}
      (high : Text.hexValue? upper = some (octet.toNat / 16))
      (low : Text.hexValue? lower = some (octet.toNat % 16)) (rest : Hex text octets) :
      Hex (upper :: lower :: text) (octet :: octets)

theorem hex_hexText (bytes : Bytes) : Hex (hexText bytes).toList bytes := by
  have value : ∀ n < 16, Text.hexValue? (Nat.digitChar n) = some n := by decide
  rw [hexText, String.toList_ofList]
  induction bytes with
  | nil => exact .nil
  | cons octet bytes ih =>
      have bound := octet.toNat_lt
      exact .octet (value _ (by omega)) (value _ (by omega)) ih

/-- A text that is the digest of a message: in 64 lowercase digits, what the blocks of the message
make of the initial state. -/
structure IsDigest (message : Bytes) (text : String) : Prop where
  made : ∃ blocks, Padded message blocks ∧
    Hex text.toList (octetsOf (blocks.foldl compress .initial))
  length : text.length = 64
  lower : ∀ c ∈ text.toList, Checksum.isLowerHexDigit c = true

theorem isDigest_hexDigest (message : Bytes) : IsDigest message (hexDigest message) := by
  have canonical := isCanonical_hexDigest message
  obtain ⟨blocks, padded⟩ := exists_padded message
  have made := hex_hexText (digest message)
  rw [padded.digest_eq] at made
  refine ⟨⟨blocks, padded, ?_⟩, ?_, ?_⟩
  · rw [hexDigest, padded.digest_eq]
    exact made
  · rw [Checksum.isCanonical, Bool.and_eq_true, beq_iff_eq] at canonical
    rw [← String.length_toList]
    exact canonical.1
  · exact List.all_eq_true.mp (Checksum.digits_of_isCanonical canonical)

example : hexDigest (Text.encode "abc") =
    "ba7816bf8f01cfea414140de5dae2223b00361a396177a9cb410ff61f20015ad" := by decide +kernel

end Sha256

/-! ## Files -/

namespace Digest

variable {content : Bytes} {pieces : List Bytes} {text digest : String}

/-- A file has the digest that any reads of it yield. -/
theorem ofFile_eq_ok_iff {disk : Disk} {path : Path} :
    ofFile disk path = .ok text ↔ ∃ content pieces, disk.readFile path = .ok content ∧
      Reads content pieces ∧ ofPieces pieces = text := by
  rw [ofFile]
  cases disk.readFile path with
  | error reason => simp
  | ok bytes =>
      constructor
      · rintro ⟨⟩
        exact ⟨bytes, _, rfl, reads_pieces bytes, rfl⟩
      · rintro ⟨_, pieces, ⟨⟩, reads, rfl⟩
        dsimp only
        rw [ofPieces_pieces, reads.ofPieces_eq]

/-! ## Letter case -/

/-- A character is a digit up to letter case when it is the digit or its capital. -/
theorem toLower_eq_iff {c d : Char} (digit : Checksum.isLowerHexDigit d = true) :
    c.toLower = d ↔ c = d ∨ c = d.toUpper := by
  have bounds := Checksum.isLowerHexDigit_iff_toNat.mp digit
  simp only [← Char.toNat_inj, Text.toNat_toLower, Text.toNat_toUpper]
  split <;> split <;> omega

/-- A text that says a digest: its digits, each in either case, between blanks. -/
def Says (text digest : String) : Prop :=
  ∃ lead digits tail, text.toList = lead ++ (digits ++ tail) ∧ Text.Blank lead ∧ Text.Blank tail ∧
    List.Forall₂ (fun c d => c = d ∨ c = d.toUpper) digits digest.toList

theorem map_toLower_eq_iff {word digits : List Char}
    (canonical : digits.all Checksum.isLowerHexDigit = true) :
    word.map Char.toLower = digits ↔ List.Forall₂ (fun c d => c = d ∨ c = d.toUpper) word digits := by
  induction digits generalizing word with
  | nil => rw [List.map_eq_nil_iff, List.forall₂_nil_right_iff]
  | cons d digits ih =>
      rw [List.all_cons, Bool.and_eq_true] at canonical
      cases word with
      | nil => simp [List.forall₂_nil_left_iff]
      | cons c word =>
          rw [List.map_cons, List.cons.injEq, toLower_eq_iff canonical.1, ih canonical.2,
            List.forall₂_cons]

/-- The digits of a digest are visible in either case. -/
theorem trimmed_of_map_toLower {word digits : List Char}
    (canonical : digits.all Checksum.isLowerHexDigit = true)
    (same : word.map Char.toLower = digits) : Text.Trimmed word := by
  have solid : ∀ c ∈ word, Text.isBlank c = false := by
    intro c listed
    have digit : Checksum.isLowerHexDigit c.toLower = true :=
      List.all_eq_true.mp canonical _ (same ▸ List.mem_map_of_mem listed)
    have bounds := Checksum.isLowerHexDigit_iff_toNat.mp digit
    rw [Text.toNat_toLower] at bounds
    split at bounds <;> exact Text.isBlank_of_visible (by omega) (by omega)
  exact .of_solid solid

theorem says_iff (canonical : Checksum.isCanonical digest = true) :
    Says text digest ↔ Text.sameUpToCase digest (Text.trim text) = true := by
  have digits := Checksum.digits_of_isCanonical canonical
  rw [Text.sameUpToCase, beq_iff_eq, Checksum.map_toLower digits, Text.trim, String.toList_ofList]
  constructor
  · rintro ⟨lead, word, tail, parts, before, behind, same⟩
    have lowered := (map_toLower_eq_iff digits).mpr same
    have trimmed := trimmed_of_map_toLower digits lowered
    rw [(Text.trimBlanks_eq_iff trimmed).mpr ⟨lead, tail, parts, before, behind⟩, lowered]
  · intro same
    obtain ⟨lead, tail, parts, before, behind⟩ :=
      (Text.trimBlanks_eq_iff (Text.trimmed_trimBlanks text.toList)).mp rfl
    exact ⟨lead, _, tail, parts, before, behind, (map_toLower_eq_iff digits).mp same.symm⟩

/-- A file is verified by the texts that say its digest. -/
theorem verify_iff {path : Path} {world : World} :
    (verify path text world).1 = true ↔
      ∃ content, world.disk.readFile path = .ok content ∧
        Says text (Sha256.hexDigest content) := by
  simp only [verify, Stateful.bind_run, Stateful.get_run, ofFile]
  cases world.disk.readFile path with
  | error reason => simp
  | ok bytes =>
      simp [ofPieces_pieces, says_iff (Sha256.isCanonical_hexDigest bytes)]

/-- Digests do not depend on how a content is read. Whatever the reads bring, the digest is SHA-256 of
the whole content in 64 lowercase digits, as it is made in one piece. The digest of a file is the one
that any reads of it yield. And a file is verified exactly when it can be read and the text says its
digest: the digits, each in either case, between blanks. -/
theorem streamed_digest {content : Bytes} {pieces : List Bytes} (reads : Reads content pieces)
    (path : Path) (expected : String) (world : World) :
    Sha256.IsDigest content (ofPieces pieces) ∧ ofPieces pieces = Sha256.hexDigest content ∧
      (∀ text, ofFile world.disk path = .ok text ↔
        ∃ bytes taken, world.disk.readFile path = .ok bytes ∧ Reads bytes taken ∧
          ofPieces taken = text) ∧
      ((verify path expected world).1 = true ↔
        ∃ bytes, world.disk.readFile path = .ok bytes ∧
          Says expected (Sha256.hexDigest bytes)) := by
  have whole := reads.ofPieces_eq
  refine ⟨?_, whole, fun text => ofFile_eq_ok_iff, verify_iff⟩
  rw [whole]
  exact Sha256.isDigest_hexDigest content

/-- A disk with one file. -/
def lone (bytes : Bytes) : Disk where
  entries := [(["app"], .file 0 Disk.fileMode bytes)]
  freshIdentity := 1
  workingDirectory := []
  sealedDirectories := []

theorem readFile_lone (bytes : Bytes) : (lone bytes).readFile "app" = .ok bytes := by
  have found : (lone bytes).get? ["app"] = some (.file 0 Disk.fileMode bytes) := rfl
  have located : (lone bytes).locate "app" = .ok ["app"] := by
    refine Disk.locate_eq_ok_iff.mpr ⟨by decide, Disk.greatestLinkCount, ?_⟩
    have pieces : Path.pieces "app" = ["app"] := by decide
    have start : Disk.origin (lone bytes).workingDirectory "app" = [] := rfl
    rw [pieces, start]
    exact .into rfl (by decide) (by decide) found (by simp) (.here _ _)
  exact Disk.readFile_eq_ok_iff.mpr ⟨["app"], 0, Disk.fileMode, located, found⟩

/-- The capitals of a digest, with a blank in front and a line feed behind. -/
def announced (digest : String) : String :=
  String.ofList (' ' :: (digest.toList.map Char.toUpper ++ ['\n']))

theorem says_announced (digest : String) : Says (announced digest) digest := by
  refine ⟨[' '], digest.toList.map Char.toUpper, ['\n'], ?_, by decide, by decide, ?_⟩
  · rw [announced, String.toList_ofList]
    rfl
  · exact List.forall₂_map_left_iff.mpr (List.forall₂_same.mpr fun d listed => .inr rfl)

def seventyOctets : Bytes := List.replicate 70 7

/-- Three pieces of them, of which the second goes beyond the first block. -/
def threePieces : List Bytes := [[7], List.replicate 64 7, List.replicate 5 7]

theorem streamed_digest_threeReads :
    Reads seventyOctets threePieces ∧
      ofPieces threePieces = Sha256.hexDigest seventyOctets ∧
      (verify "app" (announced (Sha256.hexDigest seventyOctets))
        (Transfer.worldOf (lone seventyOctets) ⟨[], .crash⟩)).1 = true := by
  have reads : Reads seventyOctets threePieces := by
    have whole : seventyOctets = threePieces.flatten := rfl
    rw [whole]
    exact reads_flatten (by decide)
  obtain ⟨-, whole, -, verified⟩ := streamed_digest reads "app"
    (announced (Sha256.hexDigest seventyOctets))
    (Transfer.worldOf (lone seventyOctets) ⟨[], .crash⟩)
  exact ⟨reads, whole, verified.mpr ⟨_, readFile_lone _, says_announced _⟩⟩

end Digest

end SelfUpdate
