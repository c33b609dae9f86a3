/-!
# Blank characters

The characters with the Unicode property White_Space, and the operations that cut text at them.
-/

namespace SelfUpdate.Text

/-- Blanks are the twenty-five characters with the Unicode property White_Space. -/
def isBlank (c : Char) : Bool :=
  ('\t' ≤ c && c ≤ '\r') || c == ' ' || c == '\u0085' || c == '\u00a0' || c == '\u1680' ||
    ('\u2000' ≤ c && c ≤ '\u200a') || c == '\u2028' || c == '\u2029' || c == '\u202f' ||
    c == '\u205f' || c == '\u3000'

/-- A text without the blanks at its two ends. -/
def trimBlanks (text : List Char) : List Char :=
  ((text.dropWhile isBlank).reverse.dropWhile isBlank).reverse

def trim (text : String) : String :=
  String.ofList (trimBlanks text.toList)

/-- A text is blank when nothing is left of it after trimming. -/
def isAllBlank (text : String) : Bool :=
  text.toList.all isBlank

/-- The words of a text are its longest runs without blanks, in order. -/
def words (text : List Char) : List (List Char) :=
  (text.splitOnP isBlank).filter (fun word => !word.isEmpty)

end SelfUpdate.Text
