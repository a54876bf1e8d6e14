import GraphQLCheck.Token.Lexer

/-!
# Reading tokens

A `Parser` takes what it needs from the front of a list of tokens, or fails. The grammars of this
library decide by the next token alone which way to go, so a failure is final and nothing is ever
tried twice. `Parser.parse` reads a whole text: all of its tokens have to be used.

A failure says where the text is at fault, what stands there, and what would have to (`ParseFault`).
In which words it is told is not decided here (`FaultWords`).
Of the things that could stand in a place, those that may be left out are not named, unless the
grammar asks for it (`Parser.insteadOf`). A literal that denotes nothing is refused where its value
is asked for (`Parser.demandMeaning`); elsewhere it is a token like any other.

Sequences are read by `Parser.manyBefore` and its variants, which go on up to a closing punctuator.
Where neither an item nor the punctuator follows, the punctuator is missing, and the items are named
beside it if the sequence has a name for them. A sequence has at most as many items as the text has
tokens, because every item uses up a token; a parser is told that number, and a sequence that is
longer fails.

At most `nestingLimit` brackets are open at a time. A grammar that opens brackets takes the number
that may still be opened, and goes through `Parser.enclosed` or recurs on it.
-/

namespace GraphQLCheck

/-- What stands at some place of a text. -/
inductive Found where
  | token (written : String)
  | noToken (fault : LexFault)
  | endOfText
  deriving DecidableEq, Repr

/-- Why a text does not follow a grammar. -/
inductive ParseFault where
  /-- Something else than what is expected stands at a place. -/
  | unexpected (position : Position) (found : Found) (expected : List String)
  /-- A literal whose value is asked for denotes nothing. -/
  | meaningless (position : Position) (fault : LiteralFault)
  /-- What begins at a place is well formed but not allowed. -/
  | refused (position : Position) (reason : String)
  deriving DecidableEq, Repr

/-- How faults are put into words, which is left to whoever asks for the text to be read. -/
structure FaultWords where
  /-- Why a text is no operation document. -/
  ofDocument : ParseFault → String
  /-- Why a text is no schema document. -/
  ofSchema : ParseFault → String

/-- Words that say no more than which kind of text was expected. -/
def FaultWords.brief : FaultWords := ⟨fun _ ↦ "query parse error", fun _ ↦ "schema parse error"⟩

/-- What a parser is told about the text that it reads. -/
structure Parser.Setting where
  /-- More items than any sequence of the text has. -/
  bound : Nat
  /-- How the tokens of the text end. -/
  ending : Ending

/-- Something that is read from the front of a list of tokens. -/
abbrev Parser := ReaderT Parser.Setting (StateT (List Token) (Except ParseFault))

/-- The name of what follows the last item of a text. -/
def theEnd : String := "the end"

/-- What stands where the tokens of a text end. -/
def Ending.found (e : Ending) : Found :=
  match e.fault? with
  | some fault => .noToken fault
  | none => .endOfText

/-- The fault that the end of the tokens is in the place of something expected. Where the end of the
text is expected, it does not matter why there is no token. -/
def Ending.unexpected (e : Ending) (expected : List String) : ParseFault :=
  if expected = [theEnd] then .refused e.position theEnd
  else .unexpected e.position e.found expected

namespace Parser

variable {α : Type}

/-- The fault that the next token is in the place of something expected. -/
def unexpected (expected : List String) (s : Setting) : List Token → ParseFault
  | [] => s.ending.unexpected expected
  | t :: _ => .unexpected t.position (.token t.written) expected

/-- Fails, because something else is expected. -/
def fail (expected : List String) : Parser α := fun s ts ↦ .error (unexpected expected s ts)

/-- Fails, because what begins at a position is not allowed. -/
def refuse (position : Position) (reason : String) : Parser α :=
  fun _ _ ↦ .error (.refused position reason)

/-- What the next token says, without taking it. -/
def peek : Parser (Option Lexeme) := fun _ ts ↦ .ok (ts.head?.map Token.lexeme, ts)

/-- The position of the next token, without taking it. -/
def position : Parser Position := fun s ts ↦
  .ok ((ts.head?.map Token.position).getD s.ending.position, ts)

/-- Takes the next token, if it is one that `f` makes something of. -/
def take (expected : List String) (f : Lexeme → Option α) : Parser α := fun s ts ↦
  match ts with
  | [] => .error (unexpected expected s ts)
  | t :: rest =>
    match f t.lexeme with
    | some a => .ok (a, rest)
    | none => .error (unexpected expected s ts)

/-- Takes the next token if `f` makes something of it. -/
def take? (f : Lexeme → Option α) : Parser (Option α) := fun _ ts ↦
  match ts with
  | [] => .ok (none, ts)
  | t :: rest =>
    match f t.lexeme with
    | some a => .ok (some a, rest)
    | none => .ok (none, ts)

/-- Takes a punctuator. -/
def punct (p : Punct) : Parser Unit :=
  take [p.text] fun lexeme ↦ if lexeme = .punct p then some () else none

/-- Takes a given name. -/
def word (text : String) : Parser Unit :=
  take [text] fun lexeme ↦ if lexeme = .name text then some () else none

/-- Takes a name. -/
def name : Parser String := take ["a name"] Lexeme.name?

/-- Takes a given token if it comes next, and tells whether it did. -/
def accept (lexeme : Lexeme) : Parser Bool := do
  return (← take? fun l ↦ if l = lexeme then some () else none).isSome

/-- Takes a punctuator if it comes next, and tells whether it did. -/
def acceptPunct (p : Punct) : Parser Bool := accept (.punct p)

/-- Takes a given name if it comes next, and tells whether it did. -/
def acceptWord (word : String) : Parser Bool := accept (.name word)

/-- Takes a name if one comes next. -/
def name? : Parser (Option String) := take? Lexeme.name?

/-- Takes nothing, but fails if the next token is a literal that denotes nothing, for a reason that
`which` picks. -/
def demandMeaning (which : LiteralFault → Bool) : Parser Unit := fun _ ts ↦
  match ts with
  | ⟨.void fault, position, _⟩ :: _ =>
    if which fault then .error (.meaningless position fault) else .ok ((), ts)
  | _ => .ok ((), ts)

/-- Takes a string if one comes next. -/
def string? : Parser (Option String) := do
  demandMeaning LiteralFault.inString
  take? fun
    | .string text => some text
    | _ => none

/-- Reads something in a place where `expected` says what could stand: if not even the first token
fits, it is `expected` that is missing. -/
def insteadOf (expected : List String) (p : Parser α) : Parser α := fun s ts ↦
  match p s ts with
  | .error (.unexpected position found wanted) =>
    .error <| if unexpected wanted s ts = .unexpected position found wanted
      then unexpected expected s ts else .unexpected position found wanted
  | result => result

/-- Items up to a closing punctuator, which is left; at most `steps` of them. The items are called
`called` in a fault, if they are named at all. -/
def itemsBefore (called : Option String) (close : Punct) (item : Parser α) : Nat → Parser (List α)
  | 0 => fail (called.toList ++ [close.text])
  | steps + 1 => do
    if (← peek) = some (.punct close) then return []
    else
      let first ← insteadOf (called.toList ++ [close.text]) item
      let rest ← itemsBefore called close item steps
      return first :: rest

/-- Items up to a closing punctuator, which is left. -/
def manyBefore (called : Option String) (close : Punct) (item : Parser α) : Parser (List α) := do
  itemsBefore called close item (← read).bound

/-- Items up to a closing punctuator, which is left; at least one. -/
def someBefore (called : Option String) (close : Punct) (item : Parser α) : Parser (List α) := do
  let first ← item
  let rest ← manyBefore called close item
  return first :: rest

/-- What stands between two brackets, read with one bracket fewer to open. -/
def enclosed (opening closing : Punct) (body : Nat → Parser α) : Nat → Parser α
  | 0 => fail [opening.text]
  | depth + 1 => do
    punct opening
    let a ← body depth
    punct closing
    return a

/-- What stands between two brackets if the opening one comes next. -/
def enclosed? (opening closing : Punct) (body : Nat → Parser α) (depth : Nat) :
    Parser (Option α) := do
  if (← peek) = some (.punct opening) then
    return some (← enclosed opening closing body depth)
  else
    return none

/-- Items that each follow a punctuator; at most `steps` of them. -/
def itemsAfter (mark : Punct) (item : Parser α) : Nat → Parser (List α)
  | 0 => fail [mark.text]
  | steps + 1 => do
    if ← acceptPunct mark then
      let first ← item
      let rest ← itemsAfter mark item steps
      return first :: rest
    else return []

/-- Items that each follow a punctuator, as many as there are. -/
def manyAfter (mark : Punct) (item : Parser α) : Parser (List α) := do
  itemsAfter mark item (← read).bound

/-- Items with a punctuator between any two of them, at least one. -/
def separated (mark : Punct) (item : Parser α) : Parser (List α) := do
  let first ← item
  let rest ← manyAfter mark item
  return first :: rest

/-- Items up to the end; at most `steps` of them. -/
def itemsToEnd (item : Parser α) : Nat → Parser (List α)
  | 0 => fail [theEnd]
  | steps + 1 => do
    if (← peek).isNone then return []
    else
      let first ← insteadOf [theEnd] item
      let rest ← itemsToEnd item steps
      return first :: rest

/-- Items up to the end, at least one. -/
def document (item : Parser α) : Parser (List α) := do
  let first ← item
  let rest ← itemsToEnd item (← read).bound
  return first :: rest

/-- Takes nothing, but demands that all tokens have been taken and the text ends there. -/
def finish : Parser Unit := fun s ts ↦
  if ts.isEmpty && s.ending.fault?.isNone then .ok ((), ts) else .error (unexpected [theEnd] s ts)

/-- Reads a whole text. -/
def parse (p : Parser α) (text : String) : Except ParseFault α := do
  let (tokens, ending) := Token.lex text
  let (a, _) ← (p <* finish) ⟨tokens.length + 1, ending⟩ tokens
  return a

/-- What a whole text is read as, if it follows the grammar. -/
def parse? (p : Parser α) (text : String) : Option α := (p.parse text).toOption

end Parser

end GraphQLCheck
