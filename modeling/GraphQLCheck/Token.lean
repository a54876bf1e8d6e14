import GraphQLCheck.Binary64
import GraphQLCheck.Source

/-!
# Tokens

The words of a GraphQL text: punctuators, names, and literals of numbers and strings. A string token
holds the text that it denotes, not the way it was written. A literal can have the form of a number
or of a string and still denote none (`LiteralFault`); it is a token all the same, and only the
places that ask for its value refuse it.
-/

namespace GraphQLCheck

/-- A punctuator. -/
inductive Punct where
  | parenOpen
  | parenClose
  | bracketOpen
  | bracketClose
  | braceOpen
  | braceClose
  | bang
  | dollar
  | colon
  | equals
  | at
  | pipe
  | amp
  | ellipsis
  deriving DecidableEq, Repr

/-- The punctuator that a single character is. -/
def Punct.ofChar? (c : Char) : Option Punct :=
  if c = '(' then some .parenOpen
  else if c = ')' then some .parenClose
  else if c = '[' then some .bracketOpen
  else if c = ']' then some .bracketClose
  else if c = '\x7b' then some .braceOpen
  else if c = '\x7d' then some .braceClose
  else if c = '!' then some .bang
  else if c = '$' then some .dollar
  else if c = ':' then some .colon
  else if c = '=' then some .equals
  else if c = '@' then some .at
  else if c = '|' then some .pipe
  else if c = '&' then some .amp
  else none

/-- The text of a punctuator. -/
def Punct.text : Punct → String
  | .parenOpen => "("
  | .parenClose => ")"
  | .bracketOpen => "["
  | .bracketClose => "]"
  | .braceOpen => "\x7b"
  | .braceClose => "\x7d"
  | .bang => "!"
  | .dollar => "$"
  | .colon => ":"
  | .equals => "="
  | .at => "@"
  | .pipe => "|"
  | .amp => "&"
  | .ellipsis => "..."

/-- Whether a punctuator opens a bracket. -/
def Punct.opens : Punct → Bool
  | .parenOpen | .bracketOpen | .braceOpen => true
  | _ => false

/-- Whether a punctuator closes a bracket. -/
def Punct.closes : Punct → Bool
  | .parenClose | .bracketClose | .braceClose => true
  | _ => false

/-- Why a literal denotes nothing. -/
inductive LiteralFault where
  /-- An integer is above the range of integers. -/
  | tooLarge
  /-- An integer is below the range of integers. -/
  | tooSmall
  /-- The exponent of a number is a sign alone. -/
  | noExponent
  /-- A string holds a backslash before a character that it has no meaning with. -/
  | badEscape (c : Char)
  /-- A string ends before the four digits of a character's code. -/
  | shortCode (digits : String)
  /-- A string holds the code of no character. -/
  | badCode (digits : String)
  deriving DecidableEq, Repr

/-- Whether the literal is a string. -/
def LiteralFault.inString : LiteralFault → Bool
  | .tooLarge | .tooSmall | .noExponent => false
  | .badEscape _ | .shortCode _ | .badCode _ => true

/-- What a token says. -/
inductive Lexeme where
  | punct (p : Punct)
  | name (text : String)
  | int (value : Int)
  | float (value : Binary64)
  | string (text : String)
  /-- A literal that denotes nothing. -/
  | void (fault : LiteralFault)
  deriving DecidableEq, Repr

/-- The text of a name. -/
def Lexeme.name? : Lexeme → Option String
  | .name text => some text
  | _ => none

/-- A lexeme, where its first character stands, and how it is written. -/
structure Token where
  /-- What the token says. -/
  lexeme : Lexeme
  /-- Where it begins. -/
  position : Position
  /-- The characters that it is made of. -/
  written : String
  deriving DecidableEq, Repr

/-! ### Names -/

/-- The characters that a name may begin with. -/
def isNameStart (c : Char) : Bool := c == '_' || c.isAlpha

/-- The characters that a name may go on with. -/
def isNameChar (c : Char) : Bool := isNameStart c || c.isDigit

/-- Whether a text is a GraphQL name: a letter or an underscore, then letters, digits and
underscores. -/
def isName (text : String) : Bool :=
  match text.toList with
  | [] => false
  | c :: cs => isNameStart c && cs.all isNameChar

end GraphQLCheck
