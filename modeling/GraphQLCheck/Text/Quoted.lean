import GraphQLCheck.Text.Shapeless

/-!
# Quoted text

A text in double quotes on a single line, for messages that name a file. Double quotes and
backslashes are escaped, common control characters have their letter, and every other character
without a shape of its own is given by its code in hexadecimal. All other characters stand for
themselves.
-/

namespace GraphQLCheck.Text

/-- A code in hexadecimal between braces. -/
def bracedCode (c : Char) : List Char :=
  '\\' :: 'u' :: '\x7b' :: (Nat.toDigits 16 c.toNat ++ ['\x7d'])

/-- A character inside a quoted text. -/
def quoteChar (c : Char) : List Char :=
  if c = '\x00' then ['\\', '0']
  else if c = '\t' then ['\\', 't']
  else if c = '\r' then ['\\', 'r']
  else if c = '\n' then ['\\', 'n']
  else if c = '"' || c = '\\' then ['\\', c]
  else if isShapeless c then bracedCode c
  else [c]

/-- A text in double quotes. -/
def quote (text : String) : String :=
  String.ofList ('"' :: (text.toList.flatMap quoteChar ++ ['"']))

end GraphQLCheck.Text
