import SelfUpdate.Text.Utf8

/-!
# SHA-256

The digest of a message in one piece, and a hasher that takes the message piece by piece.
-/

namespace SelfUpdate.Sha256

/-- The eight working words. -/
structure State where
  a : UInt32
  b : UInt32
  c : UInt32
  d : UInt32
  e : UInt32
  f : UInt32
  g : UInt32
  h : UInt32
  deriving DecidableEq, Repr

def State.initial : State :=
  ⟨0x6a09e667, 0xbb67ae85, 0x3c6ef372, 0xa54ff53a, 0x510e527f, 0x9b05688c, 0x1f83d9ab, 0x5be0cd19⟩

def roundConstants : List UInt32 := [
  0x428a2f98, 0x71374491, 0xb5c0fbcf, 0xe9b5dba5, 0x3956c25b, 0x59f111f1, 0x923f82a4, 0xab1c5ed5,
  0xd807aa98, 0x12835b01, 0x243185be, 0x550c7dc3, 0x72be5d74, 0x80deb1fe, 0x9bdc06a7, 0xc19bf174,
  0xe49b69c1, 0xefbe4786, 0x0fc19dc6, 0x240ca1cc, 0x2de92c6f, 0x4a7484aa, 0x5cb0a9dc, 0x76f988da,
  0x983e5152, 0xa831c66d, 0xb00327c8, 0xbf597fc7, 0xc6e00bf3, 0xd5a79147, 0x06ca6351, 0x14292967,
  0x27b70a85, 0x2e1b2138, 0x4d2c6dfc, 0x53380d13, 0x650a7354, 0x766a0abb, 0x81c2c92e, 0x92722c85,
  0xa2bfe8a1, 0xa81a664b, 0xc24b8b70, 0xc76c51a3, 0xd192e819, 0xd6990624, 0xf40e3585, 0x106aa070,
  0x19a4c116, 0x1e376c08, 0x2748774c, 0x34b0bcb5, 0x391c0cb3, 0x4ed8aa4a, 0x5b9cca4f, 0x682e6ff3,
  0x748f82ee, 0x78a5636f, 0x84c87814, 0x8cc70208, 0x90befffa, 0xa4506ceb, 0xbef9a3f7, 0xc67178f2]

def rotateRight (x : UInt32) (n : UInt32) : UInt32 :=
  (x >>> n) ||| (x <<< (32 - n))

def smallSigma0 (x : UInt32) : UInt32 := rotateRight x 7 ^^^ rotateRight x 18 ^^^ (x >>> 3)

def smallSigma1 (x : UInt32) : UInt32 := rotateRight x 17 ^^^ rotateRight x 19 ^^^ (x >>> 10)

def bigSigma0 (x : UInt32) : UInt32 := rotateRight x 2 ^^^ rotateRight x 13 ^^^ rotateRight x 22

def bigSigma1 (x : UInt32) : UInt32 := rotateRight x 6 ^^^ rotateRight x 11 ^^^ rotateRight x 25

/-- The big-endian words of a block. -/
def wordsOf : Bytes → List UInt32
  | a :: b :: c :: d :: rest =>
    ((a.toUInt32 <<< 24) ||| (b.toUInt32 <<< 16) ||| (c.toUInt32 <<< 8) ||| d.toUInt32)
      :: wordsOf rest
  | _ => []

/-- One word more of the schedule, which is held with the latest word first. -/
def extend (schedule : List UInt32) : List UInt32 :=
  let word (back : Nat) : UInt32 := schedule.getD (back - 1) 0
  (smallSigma1 (word 2) + word 7 + smallSigma0 (word 15) + word 16) :: schedule

def schedule (block : Bytes) : List UInt32 :=
  (Nat.repeat extend 48 (wordsOf block).reverse).reverse

def round (s : State) (constant word : UInt32) : State :=
  let choice := (s.e &&& s.f) ^^^ (~~~s.e &&& s.g)
  let majority := (s.a &&& s.b) ^^^ (s.a &&& s.c) ^^^ (s.b &&& s.c)
  let first := s.h + bigSigma1 s.e + choice + constant + word
  let second := bigSigma0 s.a + majority
  ⟨first + second, s.a, s.b, s.c, s.d + first, s.e, s.f, s.g⟩

/-- Takes a block of 64 octets into the state. -/
def compress (s : State) (block : Bytes) : State :=
  let mixed := (roundConstants.zip (schedule block)).foldl (fun s (k, w) => round s k w) s
  ⟨s.a + mixed.a, s.b + mixed.b, s.c + mixed.c, s.d + mixed.d,
    s.e + mixed.e, s.f + mixed.f, s.g + mixed.g, s.h + mixed.h⟩

/-- Takes in all whole blocks, and returns the octets that make none. -/
def absorbBlocks (s : State) (bytes : Bytes) : State × Bytes :=
  match _found : bytes.drop 63 with
  | [] => (s, bytes)
  | _ :: rest => absorbBlocks (compress s (bytes.take 64)) rest
termination_by bytes.length
decreasing_by
  have := congrArg List.length _found
  simp at this
  omega

/-- A number as eight octets, the most significant first. -/
def octets64 (n : Nat) : Bytes :=
  [56, 48, 40, 32, 24, 16, 8, 0].map fun shift => UInt8.ofNat (n >>> shift)

/-- What follows a message of the given length to fill its last block. -/
def padding (length : Nat) : Bytes :=
  0x80 :: List.replicate ((119 - length % 64) % 64) 0 ++ octets64 (8 * length)

def octetsOf (s : State) : Bytes :=
  [s.a, s.b, s.c, s.d, s.e, s.f, s.g, s.h].flatMap fun (word : UInt32) =>
    [(word >>> 24).toUInt8, (word >>> 16).toUInt8, (word >>> 8).toUInt8, word.toUInt8]

/-- The digest of a message. -/
def digest (message : Bytes) : Bytes :=
  octetsOf (absorbBlocks .initial (message ++ padding message.length)).1

/-! ## Piece by piece -/

/-- A message taken in so far: the state after its whole blocks, the octets after them, and its
length. -/
structure Hasher where
  state : State
  pending : Bytes
  length : Nat

namespace Hasher

def new : Hasher := ⟨.initial, [], 0⟩

def update (hasher : Hasher) (piece : Bytes) : Hasher :=
  let (state, pending) := absorbBlocks hasher.state (hasher.pending ++ piece)
  ⟨state, pending, hasher.length + piece.length⟩

def finish (hasher : Hasher) : Bytes :=
  octetsOf (absorbBlocks hasher.state (hasher.pending ++ padding hasher.length)).1

end Hasher

/-! ## Text -/

def hexChars (byte : UInt8) : List Char :=
  [Nat.digitChar (byte.toNat / 16), Nat.digitChar (byte.toNat % 16)]

/-- Octets in lowercase hexadecimal. -/
def hexText (bytes : Bytes) : String :=
  String.ofList (bytes.flatMap hexChars)

/-- The digest of a message in lowercase hexadecimal. -/
def hexDigest (message : Bytes) : String :=
  hexText (digest message)

end SelfUpdate.Sha256
