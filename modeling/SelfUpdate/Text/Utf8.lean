/-!
# UTF-8

Text as octets. Reading is strict, and refuses octets that are no text, or lenient, and puts the
replacement character for every longest run of octets that begins a character and does not end one.
-/

namespace SelfUpdate

abbrev Bytes := List UInt8

namespace Text

def encode (text : String) : Bytes :=
  text.toUTF8.data.toList

def decode? (bytes : Bytes) : Option String :=
  String.fromUTF8? ⟨bytes.toArray⟩

/-- The octets of the first character and the range its second octet has to lie in, for a first
octet that begins a character of several octets. -/
def leadOf (first : UInt8) : Option (Nat × UInt8 × UInt8) :=
  if 0xC2 ≤ first ∧ first ≤ 0xDF then some (1, 0x80, 0xBF)
  else if first = 0xE0 then some (2, 0xA0, 0xBF)
  else if first = 0xED then some (2, 0x80, 0x9F)
  else if 0xE1 ≤ first ∧ first ≤ 0xEF then some (2, 0x80, 0xBF)
  else if first = 0xF0 then some (3, 0x90, 0xBF)
  else if 0xF1 ≤ first ∧ first ≤ 0xF3 then some (3, 0x80, 0xBF)
  else if first = 0xF4 then some (3, 0x80, 0x8F)
  else none

/-- How many of the following octets continue the character that was begun. -/
def tailLength (owed : Nat) (low high : UInt8) : Bytes → Nat
  | [] => 0
  | next :: rest =>
    match owed with
    | 0 => 0
    | more + 1 => if low ≤ next ∧ next ≤ high then 1 + tailLength more 0x80 0xBF rest else 0

/-- The value of a character from its octets. -/
def charOfOctets (first : UInt8) (tail : Bytes) : Char :=
  let leading := match tail.length with
    | 0 => first.toNat
    | 1 => first.toNat % 0x20
    | 2 => first.toNat % 0x10
    | _ => first.toNat % 0x08
  Char.ofNat (tail.foldl (fun value octet => value * 0x40 + octet.toNat % 0x40) leading)

/-- The lenient reading, with at most `fuel` characters. -/
def decodeLenientlyUpTo : Nat → Bytes → List Char → List Char
  | 0, _, read => read.reverse
  | _ + 1, [], read => read.reverse
  | fuel + 1, first :: rest, read =>
    if first < 0x80 then decodeLenientlyUpTo fuel rest (Char.ofNat first.toNat :: read)
    else
      match leadOf first with
      | none => decodeLenientlyUpTo fuel rest ('\ufffd' :: read)
      | some (owed, low, high) =>
        let found := tailLength owed low high rest
        let char := if found = owed then charOfOctets first (rest.take owed) else '\ufffd'
        decodeLenientlyUpTo fuel (rest.drop found) (char :: read)

/-- Octets as text, where each maximal run that is no character becomes U+FFFD. -/
def decodeLeniently (bytes : Bytes) : String :=
  String.ofList (decodeLenientlyUpTo bytes.length bytes [])

end Text

end SelfUpdate
