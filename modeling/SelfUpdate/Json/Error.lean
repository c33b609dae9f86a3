import SelfUpdate.Json.Value
import SelfUpdate.Text.Quoted

/-!
# JSON errors

Why a text is no JSON, or a JSON value not the record that was asked for, and the wording.
-/

namespace SelfUpdate.Json

/-- What was found in place of something else. -/
inductive Found where
  | null
  | boolean (b : Bool)
  | integer (n : Int)
  | floating (x : Decimal.Binary64)
  | string (s : String)
  | sequence
  | map
  deriving Repr

def Found.message : Found → String
  | .null => "null"
  | .boolean b => s!"boolean `{b}`"
  | .integer n => s!"integer `{n}`"
  | .floating x => "floating point `" ++ x.toText ++ "`"
  | .string s => "string " ++ Text.quoted s
  | .sequence => "sequence"
  | .map => "map"

def Value.found : Value → Found
  | .null => .null
  | .boolean b => .boolean b
  | .number (.natural n) => .integer n
  | .number (.negative n) => .integer (Int.negSucc n)
  | .number (.floating x) => .floating x
  | .string s => .string s
  | .array _ => .sequence
  | .object _ => .map

inductive Cause where
  | endInValue
  | endInList
  | endInObject
  | endInString
  | expectedValue
  | expectedWord
  | expectedColon
  | expectedCommaOrBrace
  | expectedCommaOrBracket
  | keyNotString
  | trailingComma
  | trailingCharacters
  | invalidNumber
  | numberOutOfRange
  | invalidEscape
  | loneSurrogate
  | endOfEscape
  | controlCharacter
  | tooDeep
  | invalidType (found : Found) (expected : String)
  | invalidValue (found : Found) (expected : String)
  | invalidLength (length : Nat) (expected : String)
  | missingField (name : String)
  | duplicateField (name : String)
  /-- The record was read, and refused for what it says. -/
  | refused (reason : String)
  deriving Repr

def Cause.message : Cause → String
  | endInValue => "EOF while parsing a value"
  | endInList => "EOF while parsing a list"
  | endInObject => "EOF while parsing an object"
  | endInString => "EOF while parsing a string"
  | expectedValue => "expected value"
  | expectedWord => "expected ident"
  | expectedColon => "expected `:`"
  | expectedCommaOrBrace => "expected `,` or `\x7d`"
  | expectedCommaOrBracket => "expected `,` or `]`"
  | keyNotString => "key must be a string"
  | trailingComma => "trailing comma"
  | trailingCharacters => "trailing characters"
  | invalidNumber => "invalid number"
  | numberOutOfRange => "number out of range"
  | invalidEscape => "invalid escape"
  | loneSurrogate => "lone leading surrogate in hex escape"
  | endOfEscape => "unexpected end of hex escape"
  | controlCharacter => "control character (\\u0000-\\u001F) found while parsing a string"
  | tooDeep => "recursion limit exceeded"
  | invalidType found expected => "invalid type: " ++ found.message ++ ", expected " ++ expected
  | invalidValue found expected => "invalid value: " ++ found.message ++ ", expected " ++ expected
  | invalidLength length expected => s!"invalid length {length}, expected " ++ expected
  | missingField name => "missing field `" ++ name ++ "`"
  | duplicateField name => "duplicate field `" ++ name ++ "`"
  | refused reason => reason

/-- A place in a text: the line from one, and the octets of that line that come before. -/
structure Position where
  line : Nat
  column : Nat
  deriving DecidableEq, Repr

/-- An error has a position when it concerns a place in a text. -/
structure Error where
  cause : Cause
  position : Option Position
  deriving Repr

def Error.message (error : Error) : String :=
  match error.position with
  | none => error.cause.message
  | some ⟨line, column⟩ => error.cause.message ++ s!" at line {line} column {column}"

end SelfUpdate.Json
