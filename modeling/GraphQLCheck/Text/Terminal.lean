import GraphQLCheck.Text.Quoted

/-!
# Text for a terminal

A terminal takes some control characters for commands. In a line that is shown to a reader they are
written by their codes, and all other characters stand for themselves. Line feeds, tabs and the
remaining control characters are not among them.
-/

namespace GraphQLCheck.Text

/-- A character of a line that is meant for a terminal. Those that a terminal takes for commands are
given by their codes. -/
def harmlessChar (c : Char) : List Char :=
  if c = '\x1b' then ['\\', 'x', '1', 'b']
  else if c = '\x07' then ['\\', 'x', '0', '7']
  else if c = '\x08' then ['\\', 'x', '0', '8']
  else if c = '\x0c' then ['\\', 'x', '0', 'c']
  else if c = '\x7f' then ['\\', 'x', '7', 'f']
  else if 0x80 ≤ c.toNat && c.toNat ≤ 0x9F then bracedCode c
  else [c]

/-- A line that cannot command the terminal that shows it. -/
def harmless (line : String) : String := String.ofList (line.toList.flatMap harmlessChar)

end GraphQLCheck.Text
