import GraphQLCheck.Token.Number
import GraphQLCheck.Token.StringLiteral

/-!
# From text to tokens

`Token.lex` reads the tokens of a text, up to its end or to the first place where there is no token;
which of the two it is, and where, is the text's `Ending`. It goes step by step: `Lexer.step?` takes
what stands at the front, a token or something that is ignored, and gives the position and the text
after it. Each step uses up at least one character (`Lexer.length_rest_le_of_step?`), so the reading
ends.

Spaces and commas are one column wide and tabs eight. Carriage returns and byte order marks take no
column. A comment ends with the first carriage return or line feed, which also ends its line; one
that goes on to the end of the text takes no column.

At most `nestingLimit` brackets may be open at a time, of whatever kind. The bracket that would be
one too many is no token (`Lexer.roomAfter?`).
-/

namespace GraphQLCheck

/-- Why there is no token at some place of a text. -/
inductive LexFault where
  /-- No token begins with the character. -/
  | stray (c : Char)
  /-- There are points, but not three. -/
  | points
  /-- What begins like a number is none. -/
  | badNumber (text : String)
  /-- A quoted string does not end on its line. -/
  | openString
  /-- A block string does not end. -/
  | openBlock
  /-- A bracket opens within as many others as may be open. -/
  | tooDeep
  deriving DecidableEq, Repr

/-- Where the tokens of a text end, and why, unless it is the end of the text. -/
structure Ending where
  /-- Where they end. -/
  position : Position
  /-- What is there in the place of a token. -/
  fault? : Option LexFault
  deriving DecidableEq, Repr

/-- The largest number of brackets that may be open at a time. -/
def nestingLimit : Nat := 50

namespace Lexer

/-- What stands at the front of a text, and where and how the text goes on. -/
structure Step where
  /-- The token, unless it is something ignored. -/
  token? : Option Token
  /-- The position after it. -/
  next : Position
  /-- The text after it. -/
  rest : List Char

/-- Something ignored. -/
def Step.skip (next : Position) (rest : List Char) : Step := ⟨none, next, rest⟩

/-- A token on one line that begins at position `p`. -/
def Step.token (lexeme : Lexeme) (p : Position) (written rest : List Char) : Step :=
  ⟨some ⟨lexeme, p, String.ofList written⟩, p.advance written.length, rest⟩

/-- The first character of a comment's end. -/
def isLineEnd (c : Char) : Bool := c == '\n' || c == '\r'

/-- The position after a block string that is written with the given characters. -/
def afterBlock (p : Position) (written : List Char) : Position :=
  let feeds := written.count '\n'
  if feeds = 0 then p.advance written.length
  else ⟨p.line + feeds, (written.reverse.takeWhile (· != '\n')).length + 1⟩

/-- A block string whose opening quotes stand at `p` and whose text after them is `cs`. -/
def block? (p : Position) (cs : List Char) : Option Step := do
  let (body, rest) ← StringLiteral.blockBody? false cs
  let quotes := ['"', '"', '"']
  let written := quotes ++ body ++ quotes
  let text := String.ofList (StringLiteral.blockText body)
  return ⟨some ⟨.string text, p, String.ofList written⟩, afterBlock p written, rest⟩

/-- A quoted string whose opening quote stands at `p` and whose text after it is `cs`. -/
def quoted? (p : Position) (cs : List Char) : Option Step := do
  let (body, rest) ← StringLiteral.quotedBody? false cs
  let lexeme := match StringLiteral.unescape body with
    | .ok text => .string (String.ofList text)
    | .error fault => .void fault
  return .token lexeme p ('"' :: (body ++ ['"'])) rest

/-- A string of either kind, after its first quote. -/
def string? (p : Position) : List Char → Option Step
  | '"' :: '"' :: cs => block? p cs
  | cs => quoted? p cs

/-- A name that begins with `c`. -/
def name (p : Position) (c : Char) (cs : List Char) : Step :=
  let text := c :: cs.takeWhile isNameChar
  .token (.name (String.ofList text)) p text (cs.dropWhile isNameChar)

/-- A number that begins with `c`. -/
def number? (p : Position) (c : Char) (cs : List Char) : Option Step := do
  let text := c :: cs.takeWhile (!Number.isNumberStop ·)
  let lexeme ← Number.lexeme? text
  return .token lexeme p text (cs.dropWhile (!Number.isNumberStop ·))

/-- Three points, of which the first has been read. -/
def ellipsis? (p : Position) : List Char → Option Step
  | '.' :: '.' :: cs => some (.token (.punct .ellipsis) p ['.', '.', '.'] cs)
  | _ => none

/-- A comment, after the character that begins it. -/
def comment (p : Position) (cs : List Char) : Step :=
  match cs.dropWhile (!isLineEnd ·) with
  | [] => .skip p []
  | _ :: rest => .skip p.newline rest

/-- What stands at the front of a text that begins with `c`. -/
def step? (p : Position) (c : Char) (cs : List Char) : Option Step :=
  if c = ' ' || c = ',' then some (.skip (p.advance 1) cs)
  else if c = '\t' then some (.skip (p.advance 8) cs)
  else if c = '\r' || c = '\uFEFF' then some (.skip p cs)
  else if c = '\n' then some (.skip p.newline cs)
  else if c = '#' then some (comment p cs)
  else match Punct.ofChar? c with
    | some punct => some (.token (.punct punct) p [c] cs)
    | none =>
      if c = '.' then ellipsis? p cs
      else if isNameStart c then some (name p c cs)
      else if c = '-' || c.isDigit then number? p c cs
      else if c = '"' then string? p cs
      else none

/-- Why a string is no token, from the text after its first quote. -/
def stringFault : List Char → LexFault
  | '"' :: '"' :: _ => .openBlock
  | _ => .openString

/-- Why there is no token at the front of a text that begins with `c`. -/
def fault (c : Char) (cs : List Char) : LexFault :=
  if c = '.' then .points
  else if c = '-' || c.isDigit then
    .badNumber (String.ofList (c :: cs.takeWhile (!Number.isNumberStop ·)))
  else if c = '"' then stringFault cs
  else .stray c

/-- The number of brackets that may still be opened after a token, from that number before it. There
is none if the token opens one too many. -/
def roomAfter? (room : Nat) : Lexeme → Option Nat
  | .punct p =>
    if p.opens then (if room = 0 then none else some (room - 1))
    else if p.closes then some (room + 1)
    else some room
  | _ => some room

/-- The number of brackets that may still be opened after a step. -/
def Step.roomAfter? (s : Step) (room : Nat) : Option Nat :=
  match s.token? with
  | some token => Lexer.roomAfter? room token.lexeme
  | none => some room

/-! ### Each step uses up characters -/

theorem length_dropWhile_le (f : Char → Bool) (cs : List Char) :
    (cs.dropWhile f).length ≤ cs.length :=
  (List.dropWhile_sublist f).length_le

/-- What follows a quoted string is no longer than the text. -/
theorem length_rest_le_of_quotedBody? {escaped : Bool} {cs body rest : List Char}
    (h : StringLiteral.quotedBody? escaped cs = some (body, rest)) : rest.length ≤ cs.length := by
  induction cs generalizing escaped body with
  | nil => simp [StringLiteral.quotedBody?] at h
  | cons c cs ih =>
    rw [StringLiteral.quotedBody?] at h
    split at h
    · simp only [Option.some.injEq, Prod.mk.injEq] at h
      simp [← h.2]
    · split at h
      · simp at h
      · obtain ⟨⟨body', rest'⟩, hb, he⟩ := Option.map_eq_some_iff.1 h
        simp only [Prod.mk.injEq] at he
        obtain ⟨-, rfl⟩ := he
        exact Nat.le_succ_of_le (ih hb)

/-- What follows a block string is no longer than the text. -/
theorem length_rest_le_of_blockBody? {slash : Bool} {cs body rest : List Char}
    (h : StringLiteral.blockBody? slash cs = some (body, rest)) : rest.length ≤ cs.length := by
  fun_induction StringLiteral.blockBody? slash cs generalizing body rest with
  | case1 => simp at h
  | case2 cs ih =>
    obtain ⟨⟨body', rest'⟩, hb, he⟩ := Option.map_eq_some_iff.1 h
    simp only [Prod.mk.injEq] at he
    obtain ⟨-, rfl⟩ := he
    have := ih hb
    simp only [List.length_cons]
    omega
  | case3 _ cs _ =>
    simp only [Option.some.injEq, Prod.mk.injEq] at h
    simp only [← h.2, List.length_cons]
    omega
  | case4 _ c cs _ ih =>
    obtain ⟨⟨body', rest'⟩, hb, he⟩ := Option.map_eq_some_iff.1 h
    simp only [Prod.mk.injEq] at he
    obtain ⟨-, rfl⟩ := he
    exact Nat.le_succ_of_le (ih hb)

/-- What follows a string of either kind is no longer than the text. -/
theorem length_rest_le_of_string? {p : Position} {cs : List Char} {s : Step}
    (h : string? p cs = some s) : s.rest.length ≤ cs.length := by
  unfold string? at h
  split at h
  · obtain ⟨⟨body, rest⟩, hb, he⟩ := Option.bind_eq_some_iff.1 h
    simp only [pure, Option.some.injEq] at he
    have := length_rest_le_of_blockBody? hb
    simp only [← he, List.length_cons]
    omega
  · obtain ⟨⟨body, rest⟩, hb, he⟩ := Option.bind_eq_some_iff.1 h
    simp only [pure, Option.some.injEq] at he
    simpa [← he, Step.token] using length_rest_le_of_quotedBody? hb

/-- What follows a number is no longer than the text. -/
theorem length_rest_le_of_number? {p : Position} {c : Char} {cs : List Char} {s : Step}
    (h : number? p c cs = some s) : s.rest.length ≤ cs.length := by
  obtain ⟨lexeme, -, he⟩ := Option.bind_eq_some_iff.1 h
  simp only [pure, Option.some.injEq] at he
  simpa [← he, Step.token] using length_dropWhile_le _ cs

/-- What follows three points is no longer than the text. -/
theorem length_rest_le_of_ellipsis? {p : Position} {cs : List Char} {s : Step}
    (h : ellipsis? p cs = some s) : s.rest.length ≤ cs.length := by
  unfold ellipsis? at h
  split at h
  · simp only [Option.some.injEq] at h
    simp only [← h, Step.token, List.length_cons]
    omega
  · simp at h

/-- What follows a comment is no longer than the text. -/
theorem length_rest_comment_le (p : Position) (cs : List Char) :
    (comment p cs).rest.length ≤ cs.length := by
  have h := length_dropWhile_le (!isLineEnd ·) cs
  unfold comment
  split
  · exact Nat.zero_le _
  · rename_i heq
    rw [heq, List.length_cons] at h
    exact Nat.le_of_succ_le h

/-- The text after a step is no longer than the text after the step's first character. -/
theorem length_rest_le_of_step? {p : Position} {c : Char} {cs : List Char} {s : Step}
    (h : step? p c cs = some s) : s.rest.length ≤ cs.length := by
  unfold step? at h
  split at h
  · cases h; exact Nat.le_refl _
  split at h
  · cases h; exact Nat.le_refl _
  split at h
  · cases h; exact Nat.le_refl _
  split at h
  · cases h; exact Nat.le_refl _
  split at h
  · cases h; exact length_rest_comment_le p cs
  split at h
  · cases h; exact Nat.le_refl _
  split at h
  · exact length_rest_le_of_ellipsis? h
  split at h
  · cases h; exact length_dropWhile_le _ cs
  split at h
  · exact length_rest_le_of_number? h
  split at h
  · exact length_rest_le_of_string? h
  · cases h

/-! ### Reading to the end -/

/-- The tokens of a text that begins at position `p`, and how they end, if `room` brackets may be
opened in it. -/
def lexFrom (p : Position) (room : Nat) : List Char → List Token × Ending
  | [] => ([], ⟨p, none⟩)
  | c :: cs =>
    match _h : step? p c cs with
    | none => ([], ⟨p, some (fault c cs)⟩)
    | some s =>
      match s.roomAfter? room with
      | none => ([], ⟨p, some .tooDeep⟩)
      | some room =>
        let (tokens, ending) := lexFrom s.next room s.rest
        (s.token?.toList ++ tokens, ending)
termination_by cs => cs.length
decreasing_by exact Nat.lt_succ_of_le (length_rest_le_of_step? _h)

@[simp] theorem lexFrom_nil (p : Position) (room : Nat) : lexFrom p room [] = ([], ⟨p, none⟩) := by
  rw [lexFrom]

/-- If there is a token at the front of the text and it opens no bracket too many, the other tokens
are those of what follows it. -/
theorem lexFrom_cons_of_step? {p : Position} {room room' : Nat} {c : Char} {cs : List Char}
    {s : Step} (h : step? p c cs = some s) (hr : s.roomAfter? room = some room') :
    lexFrom p room (c :: cs) =
      (s.token?.toList ++ (lexFrom s.next room' s.rest).1, (lexFrom s.next room' s.rest).2) := by
  rw [lexFrom]
  split
  · simp_all
  · rename_i s' h'
    rw [h] at h'
    cases h'
    rw [hr]

end Lexer

/-- The tokens of a text up to its end or to the first place where there is none. -/
def Token.lex (text : String) : List Token × Ending :=
  Lexer.lexFrom .start nestingLimit text.toList

end GraphQLCheck
