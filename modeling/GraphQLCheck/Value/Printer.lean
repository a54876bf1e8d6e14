import GraphQLCheck.Binary64.Shortest
import GraphQLCheck.Value

/-!
# The written form of values

`Value.text` writes a value as GraphQL. A string with line feeds becomes a block string, unless it
has a character that only an escape can stand for (`needsEscape`); every other string is quoted.
-/

namespace GraphQLCheck.Value

/-! ### Strings -/

/-- Whether a character is written as an escape with its code. -/
def needsEscape (c : Char) : Bool :=
  !(c == '\n' || c == '\r' || c == '\t' || (' ' ≤ c && c ≤ '\uFFFF'))

/-- A number in decimal with at least four digits. -/
def fourDigits (n : Nat) : List Char :=
  let digits := Nat.toDigits 10 n
  List.replicate (4 - digits.length) '0' ++ digits

/-- A character inside a quoted string. -/
def escapeChar (c : Char) : List Char :=
  if c = '\r' then ['\\', 'r']
  else if c = '\n' then ['\\', 'n']
  else if c = '\t' then ['\\', 't']
  else if c = '"' || c = '\\' then ['\\', c]
  else if needsEscape c then '\\' :: 'u' :: fourDigits c.toNat
  else [c]

/-- A string in quotes. -/
def quotedString (cs : List Char) : List Char := '"' :: (cs.flatMap escapeChar ++ ['"'])

/-- A backslash before every triple quote. -/
def escapeTriple : List Char → List Char
  | '"' :: '"' :: '"' :: cs => '\\' :: '"' :: '"' :: '"' :: escapeTriple cs
  | c :: cs => c :: escapeTriple cs
  | [] => []

/-- A line of a block string, with two columns of indentation unless it is blank. -/
def blockLine (line : List Char) : List Char :=
  if Text.isBlank line then ['\n'] else ' ' :: ' ' :: (escapeTriple line ++ ['\n'])

/-- A string as a block, its lines indented. -/
def blockString (cs : List Char) : List Char :=
  let quotes := ['"', '"', '"']
  quotes ++ '\n' :: ((Text.lines cs).flatMap blockLine ++ quotes)

/-- A string as GraphQL. -/
def stringText (s : String) : String :=
  let cs := s.toList
  String.ofList <|
    if cs.contains '\n' && !cs.any needsEscape then blockString cs else quotedString cs

/-! ### All values -/

mutual

/-- A value as GraphQL. -/
def text : Value → String
  | .variable name => "$" ++ name
  | .int value => toString value
  | .float value => value.text
  | .string s => stringText s
  | .boolean true => "true"
  | .boolean false => "false"
  | .null => "null"
  | .enum name => name
  | .list items => "[" ++ ", ".intercalate (texts items) ++ "]"
  | .object fields => "\x7b" ++ ", ".intercalate (fieldTexts fields) ++ "\x7d"

/-- The values of a list as GraphQL. -/
def texts : List Value → List String
  | [] => []
  | v :: vs => v.text :: texts vs

/-- The fields of an object as GraphQL. -/
def fieldTexts : List (String × Value) → List String
  | [] => []
  | (name, v) :: fields => (name ++ ": " ++ v.text) :: fieldTexts fields

end

end GraphQLCheck.Value
