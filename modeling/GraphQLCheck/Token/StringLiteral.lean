import GraphQLCheck.Text.Blank
import GraphQLCheck.Text.Lines
import GraphQLCheck.Token

/-!
# String literals

A quoted string ends at the first quote that no backslash escapes and holds no line feed
(`quotedBody?`); its escapes are replaced by `unescape`, up to the first that has no meaning. A
block string stands between triple quotes (`blockBody?`); its text (`blockText`) leaves out the
blank lines at both ends and the indentation that the lines share.
-/

namespace GraphQLCheck.StringLiteral

/-! ### Quoted strings -/

/-- The characters up to the closing quote, as written, and those after it. `escaped` tells whether
a backslash stands right before. -/
def quotedBody? (escaped : Bool) : List Char → Option (List Char × List Char)
  | [] => none
  | c :: cs =>
    if c = '"' && !escaped then some ([], cs)
    else if c = '\n' then none
    else (quotedBody? (c == '\\' && !escaped) cs).map fun (body, rest) ↦ (c :: body, rest)

/-- The value of a hexadecimal digit. -/
def hexDigit? (c : Char) : Option Nat :=
  if '0' ≤ c && c ≤ '9' then some (c.toNat - '0'.toNat)
  else if 'a' ≤ c && c ≤ 'f' then some (c.toNat - 'a'.toNat + 10)
  else if 'A' ≤ c && c ≤ 'F' then some (c.toNat - 'A'.toNat + 10)
  else none

/-- The number that hexadecimal digits denote. -/
def hexNumber? (digits : List Char) : Option Nat :=
  digits.foldlM (fun n c ↦ (hexDigit? c).map (16 * n + ·)) 0

/-- The character with the code that four characters give in hexadecimal; the first may be a plus
sign. The surrogate codes are those of no character. -/
def codeChar? (a b c d : Char) : Option Char := do
  let n ← hexNumber? (if a = '+' then [b, c, d] else [a, b, c, d])
  if h : n.isValidChar then some (Char.ofNatAux n h) else none

/-- The character that a one-letter escape stands for. -/
def escapeChar? (c : Char) : Option Char :=
  if c = '"' || c = '\\' || c = '/' then some c
  else if c = 'b' then some (Char.ofNat 0x10)
  else if c = 'f' then some (Char.ofNat 0x0C)
  else if c = 'n' then some '\n'
  else if c = 'r' then some '\r'
  else if c = 't' then some '\t'
  else none

/-- The text of a quoted string, its escapes replaced, or the first escape that has no meaning. -/
def unescape : List Char → Except LiteralFault (List Char)
  | [] => .ok []
  | '\\' :: 'u' :: a :: b :: c :: d :: cs =>
    match codeChar? a b c d with
    | some code => (unescape cs).map (code :: ·)
    | none => .error (.badCode (String.ofList [a, b, c, d]))
  | '\\' :: c :: cs =>
    match escapeChar? c with
    | some escape => (unescape cs).map (escape :: ·)
    | none => .error (if c = 'u' then .shortCode (String.ofList cs) else .badEscape c)
  | c :: cs => if c = '\\' then .error (.badEscape c) else (unescape cs).map (c :: ·)

/-! ### Block strings -/

/-- The characters up to the closing triple quote and those after it. A triple quote right after a
backslash does not close; `slash` tells whether one stands right before. -/
def blockBody? (slash : Bool) : List Char → Option (List Char × List Char)
  | [] => none
  | '"' :: '"' :: '"' :: cs =>
    if slash then (blockBody? false cs).map fun (body, rest) ↦ ('"' :: '"' :: '"' :: body, rest)
    else some ([], cs)
  | c :: cs => (blockBody? (c == '\\') cs).map fun (body, rest) ↦ (c :: body, rest)

/-- The length of a text in bytes. -/
def byteLength (text : List Char) : Nat := text.foldr (fun c n ↦ c.utf8Size + n) 0

/-- The text without its first `n` bytes. -/
def dropBytes : Nat → List Char → List Char
  | 0, cs => cs
  | _, [] => []
  | n + 1, c :: cs => dropBytes (n + 1 - c.utf8Size) cs

/-- The indentation that the lines after the first have in common, in bytes; blank lines have no
say. -/
def commonIndent (lines : List (List Char)) : Option Nat :=
  let indents := (lines.drop 1).filterMap fun line ↦
    if Text.isBlank line then none else some (byteLength (Text.leadingBlanks line))
  indents.min?

/-- A line without the common indentation, if it is as long as that. -/
def unindent (indent : Option Nat) (line : List Char) : List Char :=
  match indent with
  | none => line
  | some n => if n ≤ byteLength line then dropBytes n line else line

/-- The text with the backslash left out of every escaped triple quote. -/
def unescapeTriple : List Char → List Char
  | '\\' :: '"' :: '"' :: '"' :: cs => '"' :: '"' :: '"' :: unescapeTriple cs
  | c :: cs => c :: unescapeTriple cs
  | [] => []

/-- The lines without the blank ones at the front and at the end. -/
def dropBlankEnds (lines : List (List Char)) : List (List Char) :=
  ((lines.dropWhile Text.isBlank).reverse.dropWhile Text.isBlank).reverse

/-- The text of a block string: its lines without the indentation they share and without blank lines
at either end, joined by line feeds. The first line keeps its indentation. -/
def blockText (body : List Char) : List Char :=
  match Text.lines body with
  | [] => []
  | first :: rest =>
    let indent := commonIndent (first :: rest)
    let kept := dropBlankEnds (first :: rest.map (unindent indent))
    ['\n'].intercalate (kept.map unescapeTriple)

end GraphQLCheck.StringLiteral
