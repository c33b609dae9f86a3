import SelfUpdate.Json.Error
import SelfUpdate.Text.Case
import SelfUpdate.Text.Utf8

/-!
# Tokens of JSON text

Blanks, words, strings and numbers. A reader takes the text from where it stands and returns what it
read and the text that is left. A fault names the text that was left and how many octets beyond it
the reader had looked at, from which its position in the whole text follows.
-/

namespace SelfUpdate.Json

structure Fault where
  cause : Cause
  rest : List Char
  ahead : Nat

namespace Fault

/-- A fault at the end of what was read. -/
def here (cause : Cause) (rest : List Char) : Fault := ⟨cause, rest, 0⟩

/-- A fault of the octet that comes next. -/
def next (cause : Cause) (rest : List Char) : Fault := ⟨cause, rest, 1⟩

end Fault

/-- The position after the given octets. -/
def Position.after (read : Bytes) : Position :=
  { line := 1 + read.count 10
    column := (read.reverse.takeWhile (· != 10)).length }

/-- The error of a fault that was met while reading `text`. -/
def Fault.inText (fault : Fault) (text : String) : Error :=
  let bytes := Text.encode text
  let left := (Text.encode (String.ofList fault.rest)).length
  { cause := fault.cause
    position := some (Position.after (bytes.take (bytes.length - left + fault.ahead))) }

def isSpace (c : Char) : Bool :=
  c == ' ' || c == '\n' || c == '\t' || c == '\r'

def skipSpace (text : List Char) : List Char :=
  text.dropWhile isSpace

/-- Reads the characters of a word. -/
def readWord : List Char → List Char → Except Fault (Unit × List Char)
  | [], text => .ok ((), text)
  | _ :: _, [] => .error (.here .endInValue [])
  | w :: word, c :: text =>
    if w = c then readWord word text else .error (.next .expectedWord (c :: text))

/-! ## Strings -/

/-- Four hexadecimal digits. When fewer than four octets are left the text ends too early. -/
def readHex4 (text : List Char) : Except Fault (Nat × List Char) :=
  match text with
  | a :: b :: c :: d :: rest =>
    match Text.hexValue? a, Text.hexValue? b, Text.hexValue? c, Text.hexValue? d with
    | some a, some b, some c, some d => .ok (((a * 16 + b) * 16 + c) * 16 + d, rest)
    | _, _, _, _ => .error ⟨.invalidEscape, text, 4⟩
  | _ =>
    if (Text.encode (String.ofList text)).length < 4 then .error (.here .endInString [])
    else .error ⟨.invalidEscape, text, 4⟩

def isTrailingSurrogate (unit : Nat) : Bool := 0xDC00 ≤ unit && unit ≤ 0xDFFF

def isLeadingSurrogate (unit : Nat) : Bool := 0xD800 ≤ unit && unit ≤ 0xDBFF

/-- The character that a leading and a trailing surrogate stand for. -/
def pairedChar (leading trailing : Nat) : Char :=
  Char.ofNat ((leading - 0xD800) * 0x400 + (trailing - 0xDC00) + 0x10000)

/-- The next character, when it is the wanted one. -/
def expectInEscape (wanted : Char) (text : List Char) : Except Fault (List Char) :=
  match text with
  | [] => .error (.here .endInString [])
  | c :: rest => if c = wanted then .ok rest else .error (.next .endOfEscape text)

/-- The rest of an escape that begins with `\u`. -/
def readUnicodeEscape (text : List Char) : Except Fault (Char × List Char) := do
  let (unit, rest) ← readHex4 text
  if isTrailingSurrogate unit then throw (.here .loneSurrogate rest)
  if !isLeadingSurrogate unit then return (Char.ofNat unit, rest)
  let rest ← expectInEscape '\\' rest
  let rest ← expectInEscape 'u' rest
  let (trailing, rest) ← readHex4 rest
  if isTrailingSurrogate trailing then return (pairedChar unit trailing, rest)
  throw (.here .loneSurrogate rest)

/-- What an escape of one letter stands for. -/
def escapedChar? : Char → Option Char
  | '"' => some '"'
  | '\\' => some '\\'
  | '/' => some '/'
  | 'b' => some '\x08'
  | 'f' => some '\x0c'
  | 'n' => some '\n'
  | 'r' => some '\r'
  | 't' => some '\t'
  | _ => none

/-- The rest of an escape, after the backslash. -/
def readEscape : List Char → Except Fault (Char × List Char)
  | [] => .error (.here .endInString [])
  | 'u' :: rest => readUnicodeEscape rest
  | c :: rest =>
    match escapedChar? c with
    | some char => .ok (char, rest)
    | none => .error (.next .invalidEscape (c :: rest))

/-- The characters of a string up to its closing quote, put before those read so far. -/
def readCharsFrom : Nat → List Char → List Char → Except Fault (List Char × List Char)
  | 0, _, text => .error (.here .endInString text)
  | _ + 1, _, [] => .error (.here .endInString [])
  | fuel + 1, read, c :: rest =>
    if c = '"' then .ok (read.reverse, rest)
    else if c = '\\' then do
      let (char, rest) ← readEscape rest
      readCharsFrom fuel (char :: read) rest
    else if c < ' ' then .error (.next .controlCharacter (c :: rest))
    else readCharsFrom fuel (c :: read) rest

/-- A string, after its opening quote. -/
def readString (text : List Char) : Except Fault (String × List Char) := do
  let (chars, rest) ← readCharsFrom (text.length + 1) [] text
  return (String.ofList chars, rest)

/-- The rest of an escape in a string that is passed over: surrogates need no partner. -/
def skipEscape : List Char → Except Fault (List Char)
  | [] => .error (.here .endInString [])
  | 'u' :: rest => (readHex4 rest).map Prod.snd
  | c :: rest =>
    if (escapedChar? c).isSome then .ok rest else .error (.next .invalidEscape (c :: rest))

def skipCharsFrom : Nat → List Char → Except Fault (List Char)
  | 0, text => .error (.here .endInString text)
  | _ + 1, [] => .error (.here .endInString [])
  | fuel + 1, c :: rest =>
    if c = '"' then .ok rest
    else if c = '\\' then do
      let rest ← skipEscape rest
      skipCharsFrom fuel rest
    else if c < ' ' then .error (.here .controlCharacter (c :: rest))
    else skipCharsFrom fuel rest

/-- Passes over a string, after its opening quote. -/
def skipString (text : List Char) : Except Fault (List Char) :=
  skipCharsFrom (text.length + 1) text

/-! ## Numbers -/

def digitValue (c : Char) : Nat := c.toNat - '0'.toNat

def greatestNatural : Nat := UInt64.size - 1

/-- A significand that fits 64 bits, scaled by a power of ten. Digits beyond the 64 bits are left
out; they still count for the scale before the point, and not after it. -/
structure Scaled where
  significand : Nat
  exponent : Int

/-- Takes in digits until one would exceed 64 bits, and returns the digits from there on. -/
def Scaled.takeDigits (x : Scaled) (step : Int) : List Char → Scaled × List Char
  | [] => (x, [])
  | d :: digits =>
    let grown := x.significand * 10 + digitValue d
    if grown > greatestNatural then (x, d :: digits)
    else Scaled.takeDigits ⟨grown, x.exponent + step⟩ step digits

/-- Digits of the integer part. -/
def Scaled.takeInteger (digits : List Char) : Scaled × Bool :=
  let (x, left) := Scaled.takeDigits ⟨0, 0⟩ 0 digits
  (⟨x.significand, left.length⟩, left.isEmpty)

/-- The floating point number for `significand * 10 ^ exponent`. The significand is rounded, and the
result of each scaling step is rounded again; nothing when the number is too large. -/
def scaleFloating : Nat → Decimal.Binary64 → Int → Option Decimal.Binary64
  | 0, x, _ => some x
  | fuel + 1, x, exponent =>
    if exponent.natAbs ≤ 308 then do
      let power ← Decimal.Binary64.ofNat? (Nat.pow 10 exponent.natAbs)
      if exponent ≥ 0 then x.mul? power else x.div? power
    else if x.isZero then some x
    else if exponent ≥ 0 then none
    else do
      let power ← Decimal.Binary64.ofNat? (Nat.pow 10 308)
      let x ← x.div? power
      scaleFloating fuel x (exponent + 308)

/-- Three steps of `10 ^ 308` take every significand to zero. -/
def Scaled.floating? (x : Scaled) (negative : Bool) : Option Decimal.Binary64 := do
  let significand ← Decimal.Binary64.ofNat? x.significand
  let scaled ← scaleFloating 4 significand x.exponent
  return if negative then scaled.negate else scaled

def Scaled.finish (x : Scaled) (negative : Bool) (rest : List Char) :
    Except Fault (Number × List Char) :=
  match x.floating? negative with
  | some value => .ok (.floating value, rest)
  | none => .error (.here .numberOutOfRange rest)

def greatestExponent : Nat := 1 <<< 31 - 1

/-- Digits of an exponent until one would exceed 31 bits; that one is read too. -/
def takeExponent : Nat → List Char → Option Nat × List Char
  | value, [] => (some value, [])
  | value, d :: rest =>
    if d.isDigit then
      let grown := value * 10 + digitValue d
      if grown > greatestExponent then (none, rest) else takeExponent grown rest
    else (some value, d :: rest)

/-- An exponent is kept within 32 bits when it is added to the scale of the digits. -/
def clampExponent (exponent : Int) : Int :=
  max (-greatestExponent - 1) (min exponent greatestExponent)

/-- The exponent of a number, after its letter. -/
def readExponent (x : Scaled) (negative : Bool) (text : List Char) :
    Except Fault (Number × List Char) := do
  let (down, text) := match text with
    | '+' :: rest => (false, rest)
    | '-' :: rest => (true, rest)
    | _ => (false, text)
  match text with
  | [] => throw (.here .endInValue [])
  | d :: rest =>
    if !d.isDigit then throw (.next .invalidNumber text)
    match takeExponent (digitValue d) rest with
    | (some value, rest) =>
      let exponent := if down then x.exponent - value else x.exponent + value
      Scaled.finish { x with exponent := clampExponent exponent } negative rest
    | (none, rest) =>
      if x.significand != 0 && !down then throw (.here .numberOutOfRange rest)
      let rest := rest.dropWhile Char.isDigit
      return (.floating { Decimal.Binary64.zero with negative := negative }, rest)

def isExponentLetter (c : Char) : Bool := c == 'e' || c == 'E'

/-- The fraction of a number, after its point. -/
def readFraction (x : Scaled) (negative : Bool) (text : List Char) :
    Except Fault (Number × List Char) := do
  let digits := text.takeWhile Char.isDigit
  let rest := text.dropWhile Char.isDigit
  if digits.isEmpty then
    throw (.next (if text.isEmpty then .endInValue else .invalidNumber) text)
  let (x, _) := x.takeDigits (-1) digits
  match rest with
  | c :: more =>
    if isExponentLetter c then readExponent x negative more else x.finish negative rest
  | [] => x.finish negative []

/-- An integer, which has no negative zero and keeps within 64 bits. -/
def integerOf (negative : Bool) (magnitude : Nat) : Option Number :=
  if !negative then some (.natural magnitude)
  else if 0 < magnitude ∧ magnitude ≤ 1 <<< 63 then some (.negative (magnitude - 1))
  else none

/-- A number, after its sign. -/
def readNumber (negative : Bool) (text : List Char) : Except Fault (Number × List Char) := do
  let digits := text.takeWhile Char.isDigit
  let rest := text.dropWhile Char.isDigit
  match digits, text with
  | [], [] => throw (.here .endInValue [])
  | [], _ => throw (.next .invalidNumber text)
  | '0' :: _ :: _, _ => throw (.next .invalidNumber (text.drop 1))
  | _, _ =>
    let (x, exact) := Scaled.takeInteger digits
    match rest with
    | '.' :: more => readFraction x negative more
    | 'e' :: more => readExponent x negative more
    | 'E' :: more => readExponent x negative more
    | _ =>
      match if exact then integerOf negative x.significand else none with
      | some number => return (number, rest)
      | none => x.finish negative rest

/-- Passes over the exponent of a number, after its letter. -/
def skipExponent (text : List Char) : Except Fault (List Char) :=
  let text := match text with
    | '+' :: rest => rest
    | '-' :: rest => rest
    | _ => text
  match text with
  | [] => .error (.here .invalidNumber [])
  | d :: rest =>
    if d.isDigit then .ok (rest.dropWhile Char.isDigit) else .error (.next .invalidNumber text)

/-- Passes over a number, after its sign: its size does not matter. -/
def skipNumber (text : List Char) : Except Fault (List Char) := do
  let digits := text.takeWhile Char.isDigit
  let rest := text.dropWhile Char.isDigit
  match digits, text with
  | [], [] => throw (.here .invalidNumber [])
  | [], _ => throw (.next .invalidNumber text)
  | '0' :: _ :: _, _ => throw (.next .invalidNumber (text.drop 1))
  | _, _ =>
    match rest with
    | '.' :: more =>
      let after := more.dropWhile Char.isDigit
      if after.length = more.length then throw (.next .invalidNumber more)
      match after with
      | c :: rest => if isExponentLetter c then skipExponent rest else return after
      | [] => return []
    | 'e' :: more => skipExponent more
    | 'E' :: more => skipExponent more
    | _ => return rest

end SelfUpdate.Json
