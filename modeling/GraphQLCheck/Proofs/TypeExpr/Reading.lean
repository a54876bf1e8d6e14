import GraphQLCheck.Proofs.Grammar.Yields

/-!
# Reading a type back

The text of a type reads as that type (`TypeExpr.readWithin?_text`). The lexer turns the text into
one token for each bracket, name and mark (`TypeExpr.lexes_text`), and the grammar turns these
tokens into the type: what stands before a mark is read without knowing whether the mark comes, and
the mark is then put on what was read (`TypeExpr.parser_of_lexemes`).

A reader allows a number of brackets to be open at a time, and a text with more of them is refused,
by the lexer already. Up to the limit every type is read back that the grammar can produce at all
(`TypeExpr.readWithin?_text_eq_some_iff`).
-/

namespace GraphQLCheck

/-! ### From text to tokens -/

namespace Lexer

/-- The lexer takes tokens that say `lexemes` from the front of a text, wherever it stands, and goes
on with `rest`. The numbers are those of brackets that may be opened before and after. -/
def Lexes (room : Nat) (cs : List Char) (lexemes : List Lexeme) (room' : Nat) (rest : List Char) :
    Prop :=
  ∀ p, ∃ q ts, ts.map Token.lexeme = lexemes ∧
    lexFrom p room cs = (ts ++ (lexFrom q room' rest).1, (lexFrom q room' rest).2)

/-- Characters that are read in two goes give the tokens of both. -/
theorem Lexes.trans {room room' room'' : Nat} {cs cs' rest : List Char}
    {lexemes lexemes' : List Lexeme} (h : Lexes room cs lexemes room' cs')
    (h' : Lexes room' cs' lexemes' room'' rest) :
    Lexes room cs (lexemes ++ lexemes') room'' rest := by
  intro p
  obtain ⟨q, ts, hts, hlex⟩ := h p
  obtain ⟨q', ts', hts', hlex'⟩ := h' q
  refine ⟨q', ts ++ ts', ?_, ?_⟩
  · rw [List.map_append, hts, hts']
  · rw [hlex, hlex', List.append_assoc]

/-- A step that finds a token. -/
theorem Lexes.of_step? {room room' : Nat} {c : Char} {cs rest : List Char} {lexeme : Lexeme}
    (written : List Char) (h : ∀ p, step? p c cs = some (.token lexeme p written rest))
    (hroom : roomAfter? room lexeme = some room') :
    Lexes room (c :: cs) [lexeme] room' rest := by
  intro p
  exact ⟨p.advance written.length, [⟨lexeme, p, String.ofList written⟩], rfl,
    lexFrom_cons_of_step? (h p) hroom⟩

/-- An opening bracket takes up room for one. -/
theorem lexes_bracketOpen (room : Nat) (rest : List Char) :
    Lexes (room + 1) ('[' :: rest) [.punct .bracketOpen] room rest :=
  .of_step? ['['] (fun _ ↦ rfl) rfl

/-- A closing bracket gives that room back. -/
theorem lexes_bracketClose (room : Nat) (rest : List Char) :
    Lexes room (']' :: rest) [.punct .bracketClose] (room + 1) rest :=
  .of_step? [']'] (fun _ ↦ rfl) rfl

theorem lexes_bang (room : Nat) (rest : List Char) :
    Lexes room ('!' :: rest) [.punct .bang] room rest :=
  .of_step? ['!'] (fun _ ↦ rfl) rfl

/-- What begins like a name is one: none of the other tokens begins with such a character. -/
theorem step?_of_isNameStart {c : Char} (hc : isNameStart c = true) (p : Position)
    (cs : List Char) : step? p c cs = some (name p c cs) := by
  have hne : ∀ d : Char, isNameStart d = false → c ≠ d := by
    rintro d hd rfl
    rw [hc] at hd
    cases hd
  have hpunct : Punct.ofChar? c = none := by
    simp (disch := decide) only [Punct.ofChar?, hne, if_false]
  simp (disch := decide) [step?, hne, hpunct, hc]

/-- A name that is not followed by one of its characters is one token. -/
theorem lexes_name {text : String} (h : isName text = true) (room : Nat) {rest : List Char}
    (hrest : ∀ c ∈ rest.head?, isNameChar c = false) :
    Lexes room (text.toList ++ rest) [.name text] room rest := by
  obtain ⟨c, cs, htext, hc, hcs⟩ := isName_iff.1 h
  have htake : (cs ++ rest).takeWhile isNameChar = cs := by
    rw [List.takeWhile_append_of_pos hcs]
    cases rest with
    | nil => exact List.append_nil cs
    | cons d rest => rw [List.takeWhile_cons_of_neg (by simp [hrest d rfl]), List.append_nil]
  have hdrop : (cs ++ rest).dropWhile isNameChar = rest := by
    rw [List.dropWhile_append_of_pos hcs]
    cases rest with
    | nil => rfl
    | cons d rest => rw [List.dropWhile_cons_of_neg (by simp [hrest d rfl])]
  rw [htext, List.cons_append]
  refine .of_step? (c :: cs) (fun p ↦ ?_) rfl
  rw [step?_of_isNameStart hc, name, htake, hdrop, ← htext, String.ofList_toList]

/-- The tokens of a text end at a fault. -/
def Faulty (room : Nat) (cs : List Char) : Prop := ∀ p, (lexFrom p room cs).2.fault?.isSome

/-- A fault that comes later is a fault of the whole. -/
theorem Lexes.faulty {room room' : Nat} {cs rest : List Char} {lexemes : List Lexeme}
    (h : Lexes room cs lexemes room' rest) (hrest : Faulty room' rest) : Faulty room cs := by
  intro p
  obtain ⟨q, ts, -, hlex⟩ := h p
  rw [hlex]
  exact hrest q

/-- A bracket that is one too many is a fault. -/
theorem faulty_bracketOpen (rest : List Char) : Faulty 0 ('[' :: rest) := by
  intro p
  rw [lexFrom]
  rfl

end Lexer

namespace TypeExpr

/-- What the tokens of a type say. -/
def lexemes : TypeExpr → List Lexeme
  | .named name => [.name name]
  | .list inner => .punct .bracketOpen :: (inner.lexemes ++ [.punct .bracketClose])
  | .nonNull inner => inner.lexemes ++ [.punct .bang]

variable {t : TypeExpr} {room limit : Nat}

/-- The text of a type is lexed as its tokens, if its brackets may be opened. -/
theorem lexes_text (ht : t.Written) (hroom : t.depth ≤ room) {rest : List Char}
    (hrest : ∀ c ∈ rest.head?, isNameChar c = false) :
    Lexer.Lexes room (t.text.toList ++ rest) t.lexemes room rest := by
  induction t generalizing room rest with
  | named name => exact Lexer.lexes_name ht room hrest
  | list inner ih =>
    obtain ⟨room, rfl⟩ : ∃ r, room = r + 1 := Nat.exists_eq_add_one.2 (Nat.zero_lt_of_lt hroom)
    have hinner : Lexer.Lexes room (inner.text.toList ++ ']' :: rest) inner.lexemes room
        (']' :: rest) := ih ht (Nat.le_of_succ_le_succ hroom) (by simp; decide)
    rw [toList_text_list, List.cons_append, List.append_assoc]
    exact (Lexer.lexes_bracketOpen room _).trans
      (hinner.trans (Lexer.lexes_bracketClose room rest))
  | nonNull inner ih =>
    have hinner : Lexer.Lexes room (inner.text.toList ++ '!' :: rest) inner.lexemes room
        ('!' :: rest) := ih ht.2 hroom (by simp; decide)
    rw [toList_text_nonNull, List.append_assoc]
    exact hinner.trans (Lexer.lexes_bang room rest)

/-- The text of a type with more brackets than may be opened has a fault. -/
theorem faulty_text (ht : t.Written) (hroom : room < t.depth) (rest : List Char) :
    Lexer.Faulty room (t.text.toList ++ rest) := by
  induction t generalizing room rest with
  | named name => exact absurd hroom (Nat.not_lt_zero room)
  | list inner ih =>
    rw [toList_text_list, List.cons_append, List.append_assoc]
    cases room with
    | zero => exact Lexer.faulty_bracketOpen _
    | succ room =>
      exact (Lexer.lexes_bracketOpen room _).faulty (ih ht (Nat.lt_of_succ_lt_succ hroom) _)
  | nonNull inner ih =>
    rw [toList_text_nonNull, List.append_assoc]
    exact ih ht.2 hroom _

/-! ### From tokens to the type -/

end TypeExpr

namespace Parser

variable {α β : Type} {s : Setting} {ts rest : List Token}

/-- A parser that has read something hands it on with what is left. -/
theorem bind_of_ok {p : Parser α} {a : α} (h : p s ts = .ok (a, rest)) (f : α → Parser β) :
    (p >>= f) s ts = f a s rest := by
  show (p s ts >>= fun r ↦ f r.1 s r.2) = f a s rest
  rw [h]
  rfl

/-- A token that is wanted is taken. -/
theorem take_of_eq_some {expected : List String} {f : Lexeme → Option α} {token : Token} {a : α}
    (h : f token.lexeme = some a) : take expected f s (token :: rest) = .ok (a, rest) := by
  simp only [take, h]

theorem punct_of_eq {mark : Punct} {token : Token} (h : token.lexeme = .punct mark) :
    punct mark s (token :: rest) = .ok ((), rest) :=
  take_of_eq_some (if_pos h)

/-- A mark that may stand there is taken if it does. -/
theorem acceptPunct_of_eq {mark : Punct} {token : Token} (h : token.lexeme = .punct mark) :
    acceptPunct mark s (token :: rest) = .ok (true, rest) := by
  have htake : take? (fun l ↦ if l = .punct mark then some () else none) s (token :: rest) =
      .ok (some (), rest) := by
    simp only [take?, h, if_true]
  exact bind_of_ok htake _

/-- Nothing is taken if that mark does not come next. -/
theorem acceptPunct_of_ne {mark : Punct} (h : ∀ token ∈ ts.head?, token.lexeme ≠ .punct mark) :
    acceptPunct mark s ts = .ok (false, ts) := by
  have htake : take? (fun l ↦ if l = .punct mark then some () else none) s ts =
      .ok (none, ts) := by
    cases ts with
    | nil => rfl
    | cons token ts => simp only [take?, if_neg (h token rfl)]
  exact bind_of_ok htake _

/-- The text is at its end if no token is left and nothing is at fault. -/
theorem finish_eq_ok_iff {rest : List Token} {u : Unit} :
    finish s ts = .ok (u, rest) ↔ ts = [] ∧ s.ending.fault? = none ∧ rest = [] := by
  rw [finish]
  cases ts with
  | cons token ts => simp
  | nil =>
    cases s.ending.fault? with
    | some fault => simp
    | none => simp [eq_comm]

/-- A parser reads the whole of a text if it takes all tokens and these end without a fault. -/
theorem whole_eq_ok_iff {p : Parser α} {a : α} :
    (p <* finish) s ts = .ok (a, rest) ↔
      p s ts = .ok (a, []) ∧ s.ending.fault? = none ∧ rest = [] := by
  show (p >>= fun b ↦ finish >>= fun _ ↦ pure b) s ts = .ok (a, rest) ↔ _
  constructor
  · intro h
    obtain ⟨⟨b, left⟩, hread, h⟩ := bind_eq_ok_iff.1 h
    obtain ⟨⟨_, left'⟩, hfinish, h⟩ := bind_eq_ok_iff.1 h
    obtain ⟨rfl, hfault, rfl⟩ := finish_eq_ok_iff.1 hfinish
    cases h
    exact ⟨hread, hfault, rfl⟩
  · rintro ⟨hread, hfault, rfl⟩
    have hfinish : finish s [] = .ok ((), []) := finish_eq_ok_iff.2 ⟨rfl, hfault, rfl⟩
    exact (bind_of_ok hread _).trans (bind_of_ok hfinish _)

end Parser

namespace TypeExpr

section Parsing

variable {s : Parser.Setting}

/-- A mark makes the type one that is not nullable. -/
theorem marked_of_eq (t : TypeExpr) {token : Token} (h : token.lexeme = .punct .bang)
    (rest : List Token) : marked t s (token :: rest) = .ok (.nonNull t, rest) :=
  Parser.bind_of_ok (Parser.acceptPunct_of_eq h) _

/-- Without a mark the type stays as it is. -/
theorem marked_of_ne (t : TypeExpr) {rest : List Token}
    (hrest : ∀ token ∈ rest.head?, token.lexeme ≠ .punct .bang) :
    marked t s rest = .ok (t, rest) :=
  Parser.bind_of_ok (Parser.acceptPunct_of_ne hrest) _

/-- A name is read as a type, with the mark behind it if there is one. -/
theorem nameParser_of_eq {name : String} {token : Token} (h : token.lexeme = .name name)
    (rest : List Token) : nameParser s (token :: rest) = marked (.named name) s rest := by
  refine Parser.bind_of_ok (Parser.take_of_eq_some ?_) _
  rw [h]
  rfl

/-- A name among the tokens is read as a type by its name, whether brackets may be opened or not. -/
theorem parser_of_name {name : String} {token : Token} (h : token.lexeme = .name name)
    (limit : Nat) (rest : List Token) :
    parser limit s (token :: rest) = marked (.named name) s rest := by
  cases limit with
  | zero => exact nameParser_of_eq h rest
  | succ limit =>
    have hne : ∀ t ∈ (token :: rest).head?, t.lexeme ≠ .punct .bracketOpen := by
      rintro t ⟨⟩
      rw [h]
      exact Lexeme.noConfusion
    exact (Parser.bind_of_ok (Parser.acceptPunct_of_ne hne) _).trans (nameParser_of_eq h rest)

/-- A type between brackets is read as a list. -/
theorem parser_of_list {inner : TypeExpr} {opening closing : Token} {ts rest : List Token}
    (hopening : opening.lexeme = .punct .bracketOpen)
    (hclosing : closing.lexeme = .punct .bracketClose)
    (hinner : parser limit s (ts ++ closing :: rest) = .ok (inner, closing :: rest)) :
    parser (limit + 1) s (opening :: (ts ++ closing :: rest)) = marked (.list inner) s rest := by
  refine (Parser.bind_of_ok (Parser.acceptPunct_of_eq hopening) _).trans ?_
  refine (Parser.bind_of_ok hinner _).trans ?_
  exact Parser.bind_of_ok (Parser.punct_of_eq hclosing) _

/-- The tokens of a type without a mark on its outside are read as that type, which gets a mark if
one comes next. The tokens of any type that no mark follows are read as that type. -/
theorem parser_of_lexemes (ht : t.Written) (hlimit : t.depth ≤ limit) {ts : List Token}
    (hts : ts.map Token.lexeme = t.lexemes) (rest : List Token) :
    (t.isMarked = false → parser limit s (ts ++ rest) = marked t s rest) ∧
    ((∀ token ∈ rest.head?, token.lexeme ≠ .punct .bang) →
      parser limit s (ts ++ rest) = .ok (t, rest)) := by
  induction t generalizing limit ts rest with
  | named name =>
    obtain ⟨token, rfl, htoken⟩ := List.map_eq_singleton_iff.1 hts
    have hread := parser_of_name (s := s) htoken limit rest
    exact ⟨fun _ ↦ hread, fun hrest ↦ hread.trans (marked_of_ne _ hrest)⟩
  | list inner ih =>
    obtain ⟨limit, rfl⟩ : ∃ n, limit = n + 1 := Nat.exists_eq_add_one.2 (Nat.zero_lt_of_lt hlimit)
    obtain ⟨opening, ts, rfl, hopening, hts⟩ := List.map_eq_cons_iff.1 hts
    obtain ⟨ts, closings, rfl, hinnerTs, hclosings⟩ := List.map_eq_append_iff.1 hts
    obtain ⟨closing, rfl, hclosing⟩ := List.map_eq_singleton_iff.1 hclosings
    have hinner : parser limit s (ts ++ closing :: rest) = .ok (inner, closing :: rest) := by
      refine (ih ht (Nat.le_of_succ_le_succ hlimit) hinnerTs (closing :: rest)).2 ?_
      rintro token ⟨⟩
      rw [hclosing]
      decide
    have hread := parser_of_list hopening hclosing hinner
    rw [List.cons_append, List.append_assoc]
    exact ⟨fun _ ↦ hread, fun hrest ↦ hread.trans (marked_of_ne _ hrest)⟩
  | nonNull inner ih =>
    -- what stands before the mark has none, so the mark is put on it
    obtain ⟨ts, marks, rfl, hinnerTs, hmarks⟩ := List.map_eq_append_iff.1 hts
    obtain ⟨mark, rfl, hmark⟩ := List.map_eq_singleton_iff.1 hmarks
    refine ⟨fun h ↦ (nomatch h), fun _ ↦ ?_⟩
    rw [List.append_assoc]
    exact ((ih ht.2 hlimit hinnerTs (mark :: rest)).1 ht.1).trans (marked_of_eq inner hmark rest)

end Parsing

/-! ### What is read at all -/

/-- A mark may follow a type that bears none. -/
theorem yields_marked {t : TypeExpr} (ht : t.Written) (hmark : t.isMarked = false) :
    (marked t).Yields Written :=
  .bind_ite .accept (.pure ⟨hmark, ht⟩) (.pure ht)

/-- A name with its mark is a type that the grammar can write. -/
theorem yields_nameParser : nameParser.Yields Written :=
  .bind (.take fun _ _ htoken h ↦ htoken _ h) fun _ hname ↦ yields_marked hname rfl

/-- The grammar puts at most one mark on a type. -/
theorem parser_yields (limit : Nat) : (parser limit).Yields Written := by
  induction limit with
  | zero => exact yields_nameParser
  | succ limit ih =>
    refine .bind_ite .accept (.bind ih fun inner hinner ↦ ?_) yields_nameParser
    exact .bind .punct fun _ _ ↦ yields_marked hinner rfl

/-! ### From text to the type -/

/-- The type that a text denotes, with at most `limit` brackets open at a time, for a limit of any
size. -/
def readWithin? (limit : Nat) (text : String) : Option TypeExpr :=
  let (tokens, ending) := Lexer.lexFrom .start limit text.toList
  (((parser limit <* Parser.finish) ⟨tokens.length + 1, ending⟩ tokens).toOption).map Prod.fst

/-- With the limit that all texts of the library have, this is how a type is read. -/
theorem readWithin?_nestingLimit (text : String) :
    readWithin? nestingLimit text = read? nestingLimit text := by
  rw [readWithin?, read?, Parser.parse?, Parser.parse, Token.lex]
  rcases Lexer.lexFrom .start nestingLimit text.toList with ⟨tokens, ending⟩
  simp only
  cases (parser nestingLimit <* Parser.finish) ⟨tokens.length + 1, ending⟩ tokens <;> rfl

/-- What a text is read as, in terms of its tokens. -/
theorem readWithin?_eq_some_iff {text : String} : readWithin? limit text = some t ↔
    ∃ tokens ending, Lexer.lexFrom .start limit text.toList = (tokens, ending) ∧
      ending.fault? = none ∧ parser limit ⟨tokens.length + 1, ending⟩ tokens = .ok (t, []) := by
  rw [readWithin?]
  rcases Lexer.lexFrom .start limit text.toList with ⟨tokens, ending⟩
  constructor
  · intro h
    obtain ⟨⟨u, rest⟩, hread, rfl⟩ := Option.map_eq_some_iff.1 h
    have hok : (parser limit <* Parser.finish) ⟨tokens.length + 1, ending⟩ tokens =
        .ok (u, rest) := by
      rcases hresult : (parser limit <* Parser.finish) ⟨tokens.length + 1, ending⟩ tokens
        with fault | result
      · rw [hresult] at hread
        cases hread
      · rw [hresult] at hread
        rw [← Option.some.inj hread]
    obtain ⟨hparse, hfault, -⟩ := Parser.whole_eq_ok_iff.1 hok
    exact ⟨tokens, ending, rfl, hfault, hparse⟩
  · rintro ⟨_, _, ⟨⟩, hfault, hparse⟩
    simp only [Parser.whole_eq_ok_iff.2 ⟨hparse, hfault, rfl⟩, Except.toOption, Option.map_some]

/-- **Reading a type back.** The text of a type is read as that type if its brackets may be opened,
and it is not read at all otherwise. -/
theorem readWithin?_text (ht : t.Written) (limit : Nat) :
    readWithin? limit t.text = if t.depth ≤ limit then some t else none := by
  by_cases hlimit : t.depth ≤ limit
  · rw [if_pos hlimit, readWithin?_eq_some_iff]
    have hlexes : Lexer.Lexes limit (t.text.toList ++ []) t.lexemes limit [] :=
      lexes_text ht hlimit (by simp)
    obtain ⟨q, ts, hts, hlex⟩ := hlexes .start
    rw [List.append_nil, Lexer.lexFrom_nil, List.append_nil] at hlex
    have hparse :=
      (parser_of_lexemes (s := ⟨ts.length + 1, ⟨q, none⟩⟩) ht hlimit hts []).2 (by simp)
    rw [List.append_nil] at hparse
    exact ⟨ts, _, hlex, rfl, hparse⟩
  · rw [if_neg hlimit, Option.eq_none_iff_forall_ne_some]
    intro u hu
    obtain ⟨tokens, ending, hlex, hfault, -⟩ := readWithin?_eq_some_iff.1 hu
    have hfaulty := faulty_text ht (Nat.lt_of_not_le hlimit) [] .start
    rw [List.append_nil, hlex, hfault] at hfaulty
    cases hfaulty

/-- Whatever is read is a type that the grammar writes. -/
theorem written_of_readWithin? {text : String} (h : readWithin? limit text = some t) :
    t.Written := by
  obtain ⟨tokens, ending, hlex, -, hparse⟩ := readWithin?_eq_some_iff.1 h
  have hspelled := Lexer.spelled_lexFrom .start limit text.toList
  rw [hlex] at hspelled
  exact (parser_yields limit _ _ _ _ hspelled hparse).1

/-- The types that are read back are those that the grammar writes, up to the limit. -/
theorem readWithin?_text_eq_some_iff :
    readWithin? limit t.text = some t ↔ t.Written ∧ t.depth ≤ limit := by
  constructor
  · intro h
    have ht := written_of_readWithin? h
    rw [readWithin?_text ht] at h
    by_contra hne
    rw [if_neg fun hle ↦ hne ⟨ht, hle⟩] at h
    cases h
  · rintro ⟨ht, hlimit⟩
    rw [readWithin?_text ht, if_pos hlimit]

end TypeExpr

end GraphQLCheck
