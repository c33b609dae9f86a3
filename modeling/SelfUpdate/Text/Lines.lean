/-!
# Lines

A line ends with a line feed or a carriage return and a line feed; the last one may lack its end.
-/

namespace SelfUpdate.Text

/-- A line without the carriage return that precedes its line feed. -/
def dropReturn (line : List Char) : List Char :=
  if line.getLast? = some '\r' then line.dropLast else line

/-- The lines of a text, without their ends. Only a text that does not end in a line feed has a
last line without an end, and there a carriage return is part of the line. -/
def lines (text : List Char) : List (List Char) :=
  match (text.splitOn '\n').reverse with
  | [] => []
  | [] :: ended => (ended.map dropReturn).reverse
  | last :: ended => (last :: ended.map dropReturn).reverse

end SelfUpdate.Text
