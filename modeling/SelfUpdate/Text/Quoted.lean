import SelfUpdate.Text.Glyphless

/-!
# Quoted text

A text as a diagnostic shows it: in double quotes, with an escape for the quote, the backslash and
every character that has no glyph of its own.
-/

namespace SelfUpdate.Text

/-- A number in lowercase hexadecimal. -/
def hexText (n : Nat) : String :=
  String.ofList (Nat.toDigits 16 n)

def quotedChar (c : Char) : String :=
  if c = '"' then "\\\""
  else if c = '\\' then "\\\\"
  else if c = '\n' then "\\n"
  else if c = '\r' then "\\r"
  else if c = '\t' then "\\t"
  else if c = '\x00' then "\\0"
  else if isGlyphless c then "\\u\x7b" ++ hexText c.toNat ++ "\x7d"
  else c.toString

def quoted (text : String) : String :=
  "\"" ++ String.join (text.toList.map quotedChar) ++ "\""

end SelfUpdate.Text
