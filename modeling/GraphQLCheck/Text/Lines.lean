/-!
# Lines

A text falls into lines at its line feeds. A carriage return right before a line feed belongs to the
end of the line and not to the line, and a text that ends with a line feed has no empty line after
it.
-/

namespace GraphQLCheck.Text

/-- A line in reverse, without the carriage return before its line feed. -/
def dropReturn : List Char → List Char
  | '\r' :: line => line
  | line => line

/-- The lines of a text whose first line began with the characters of `line` in reverse. -/
def linesFrom (line : List Char) : List Char → List (List Char)
  | [] => if line.isEmpty then [] else [line.reverse]
  | c :: cs =>
    if c = '\n' then (dropReturn line).reverse :: linesFrom [] cs else linesFrom (c :: line) cs

/-- The lines of a text. -/
def lines (text : List Char) : List (List Char) := linesFrom [] text

end GraphQLCheck.Text
