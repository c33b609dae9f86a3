import SelfUpdate.Json.Value
import SelfUpdate.Text.Quoted

/-!
# Writing JSON text

Objects are written with their members in the order given. The compact form has no blanks; the
indented form has each item and each member on a line of its own, two spaces deeper than the
bracket.
-/

namespace SelfUpdate.Json

def hexDigit (n : Nat) : Char := Nat.digitChar (n % 16)

/-- Quotes, backslashes and control characters are escaped, all else stands for itself. -/
def escapeChar (c : Char) : List Char :=
  if c = '"' then ['\\', '"']
  else if c = '\\' then ['\\', '\\']
  else if c = '\x08' then ['\\', 'b']
  else if c = '\x0c' then ['\\', 'f']
  else if c = '\n' then ['\\', 'n']
  else if c = '\r' then ['\\', 'r']
  else if c = '\t' then ['\\', 't']
  else if c < ' ' then ['\\', 'u', '0', '0', hexDigit (c.toNat / 16), hexDigit c.toNat]
  else [c]

def stringText (s : String) : List Char :=
  '"' :: s.toList.flatMap escapeChar ++ ['"']

def Number.text : Number → List Char
  | .natural n => Nat.toDigits 10 n
  | .negative n => '-' :: Nat.toDigits 10 (n + 1)
  | .floating x => x.toText.toList

def Value.scalarText : Value → List Char
  | .null => ['n', 'u', 'l', 'l']
  | .boolean true => ['t', 'r', 'u', 'e']
  | .boolean false => ['f', 'a', 'l', 's', 'e']
  | .number n => n.text
  | .string s => stringText s
  | .array _ => ['[', ']']
  | .object _ => ['\x7b', '\x7d']

/-- Texts with a separator between them. -/
def separated (separator : List Char) : List (List Char) → List Char
  | [] => []
  | [text] => text
  | text :: more => text ++ separator ++ separated separator more

mutual

def Value.compactChars : Value → List Char
  | .array items => '[' :: separated [','] (itemsCompact items) ++ [']']
  | .object members => '\x7b' :: separated [','] (membersCompact members) ++ ['\x7d']
  | scalar => scalar.scalarText

def itemsCompact : List Value → List (List Char)
  | [] => []
  | item :: more => item.compactChars :: itemsCompact more

def membersCompact : List (String × Value) → List (List Char)
  | [] => []
  | (key, value) :: more => (stringText key ++ ':' :: value.compactChars) :: membersCompact more

end

def Value.compact (value : Value) : String :=
  String.ofList value.compactChars

/-- A line feed and the blanks of the given depth. -/
def lineStart (depth : Nat) : List Char :=
  '\n' :: List.replicate (2 * depth) ' '

/-- Texts in brackets, each on a line of its own. -/
def bracketed (opening closing : Char) (depth : Nat) (texts : List (List Char)) : List Char :=
  if texts.isEmpty then [opening, closing]
  else
    opening :: lineStart (depth + 1) ++ separated (',' :: lineStart (depth + 1)) texts ++
      lineStart depth ++ [closing]

mutual

def Value.indentedChars (depth : Nat) : Value → List Char
  | .array items => bracketed '[' ']' depth (itemsIndented (depth + 1) items)
  | .object members => bracketed '\x7b' '\x7d' depth (membersIndented (depth + 1) members)
  | scalar => scalar.scalarText

def itemsIndented (depth : Nat) : List Value → List (List Char)
  | [] => []
  | item :: more => item.indentedChars depth :: itemsIndented depth more

def membersIndented (depth : Nat) : List (String × Value) → List (List Char)
  | [] => []
  | (key, value) :: more =>
    (stringText key ++ ':' :: ' ' :: value.indentedChars depth) :: membersIndented depth more

end

def Value.indented (value : Value) : String :=
  String.ofList (value.indentedChars 0)

end SelfUpdate.Json
