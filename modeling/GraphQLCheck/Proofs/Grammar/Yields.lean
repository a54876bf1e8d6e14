import GraphQLCheck.Grammar
import GraphQLCheck.Proofs.Schema.Built
import GraphQLCheck.Proofs.TypeExpr.Text
import Mathlib.Data.List.TakeWhile

/-!
# What a parser yields

The lexer makes a name token of GraphQL names only (`Lexer.spelled_lexFrom`). A parser that is given
such tokens **yields** a property if whatever it reads has the property (`Parser.Yields`). It leaves
tokens of the same sort, which is what makes the property pass from parser to parser: there is one
lemma for each way in which parsers are put together, and a grammar follows its own definition.
-/

namespace GraphQLCheck

/-! ### Name tokens -/

/-- If the token is a name, it is a GraphQL name. -/
def Token.Spelled (t : Token) : Prop := ∀ text, t.lexeme.name? = some text → isName text = true

namespace Lexer

/-- An integer literal is no name, whether it is in range or not. -/
theorem name?_of_int? {text : List Char} {lexeme : Lexeme} (h : Number.int? text = some lexeme) :
    lexeme.name? = none := by
  obtain ⟨⟨negative, digits⟩, -, h⟩ := Option.bind_eq_some_iff.1 h
  dsimp only at h
  generalize (if negative then -(Number.ofDigits digits : Int) else Number.ofDigits digits) = value
    at h
  split at h
  · cases h
    rfl
  · split at h <;> cases h <;> rfl

/-- A float literal is no name, and neither is one whose exponent has no digits. -/
theorem name?_of_float? {text : List Char} {lexeme : Lexeme}
    (h : Number.float? text = some lexeme) : lexeme.name? = none := by
  unfold Number.float? at h
  simp only at h
  obtain ⟨⟨negative, digits, places⟩, -, h⟩ := Option.bind_eq_some_iff.1 h
  split at h
  · cases h
    rfl
  · obtain ⟨power, -, h⟩ := Option.bind_eq_some_iff.1 h
    cases h
    rfl

/-- A number is no name. -/
theorem name?_of_lexeme? {text : List Char} {lexeme : Lexeme}
    (h : Number.lexeme? text = some lexeme) : lexeme.name? = none := by
  rw [Number.lexeme?] at h
  split at h
  · exact name?_of_float? h
  · exact name?_of_int? h

/-- A string is no name, in either of its two forms. -/
theorem name?_of_string? {p : Position} {cs : List Char} {s : Step} (h : string? p cs = some s) :
    ∀ t ∈ s.token?, t.lexeme.name? = none := by
  unfold string? at h
  split at h
  · obtain ⟨⟨body, rest⟩, -, h⟩ := Option.bind_eq_some_iff.1 h
    cases h
    rintro t ⟨⟩
    rfl
  · obtain ⟨⟨body, rest⟩, -, h⟩ := Option.bind_eq_some_iff.1 h
    cases h
    rintro t ⟨⟩
    dsimp only
    split <;> rfl

/-- A first character that may begin a name and others that may follow make a name. -/
theorem isName_ofList {c : Char} {cs : List Char} (hc : isNameStart c = true)
    (hcs : ∀ d ∈ cs, isNameChar d = true) : isName (String.ofList (c :: cs)) = true :=
  isName_iff.2 ⟨c, cs, String.toList_ofList, hc, hcs⟩

/-- A token is no name, or it is a name that begins with the first character of the text. -/
theorem spelled_of_step? {p : Position} {c : Char} {cs : List Char} {s : Step}
    (h : step? p c cs = some s) : ∀ t ∈ s.token?, t.Spelled := by
  have hskip : ∀ {next rest}, ∀ t ∈ (Step.skip next rest).token?, t.Spelled := by
    rintro next rest t ⟨⟩
  have hother : (∀ t ∈ s.token?, t.lexeme.name? = none) → ∀ t ∈ s.token?, t.Spelled := by
    intro hnone t ht text htext
    rw [hnone t ht] at htext
    cases htext
  unfold step? at h
  split at h
  · cases h; exact hskip
  split at h
  · cases h; exact hskip
  split at h
  · cases h; exact hskip
  split at h
  · cases h; exact hskip
  split at h
  · cases h
    unfold comment
    split <;> exact hskip
  split at h
  · cases h
    refine hother ?_
    rintro t ⟨⟩
    rfl
  split at h
  · unfold ellipsis? at h
    split at h
    · cases h
      refine hother ?_
      rintro t ⟨⟩
      rfl
    · cases h
  split at h
  · rename_i hc
    cases h
    rintro t ⟨⟩ text ⟨⟩
    refine isName_ofList hc fun d hd ↦ ?_
    exact List.mem_takeWhile_imp hd
  split at h
  · obtain ⟨lexeme, hlexeme, h⟩ := Option.bind_eq_some_iff.1 h
    cases h
    refine hother ?_
    rintro t ⟨⟩
    exact name?_of_lexeme? hlexeme
  split at h
  · exact hother (name?_of_string? h)
  · cases h

/-- The names among the tokens of a text are GraphQL names. -/
theorem spelled_lexFrom (p : Position) (room : Nat) (cs : List Char) :
    ∀ t ∈ (lexFrom p room cs).1, t.Spelled := by
  fun_induction lexFrom p room cs with
  | case1 => simp
  | case2 => simp
  | case3 => simp
  | case4 p room c cs s hstep room' hroom tokens ending hrest ih =>
    intro t ht
    rw [hrest] at ih
    rcases List.mem_append.1 ht with ht | ht
    · exact spelled_of_step? hstep t (Option.mem_toList.1 ht)
    · exact ih t ht

end Lexer

/-! ### Parsers -/

namespace Parser

variable {α β : Type} {P : α → Prop} {Q : β → Prop}

/-- From tokens whose names are GraphQL names, the parser reads only things with the property, and
what it leaves are such tokens again. -/
def Yields (p : Parser α) (P : α → Prop) : Prop :=
  ∀ (s : Setting) (ts rest : List Token) (a : α), (∀ t ∈ ts, t.Spelled) →
    p s ts = .ok (a, rest) → P a ∧ ∀ t ∈ rest, t.Spelled

namespace Yields

/-- A value that has the property is read off no tokens at all. -/
theorem pure {a : α} (h : P a) : Yields (pure a) P := by
  intro s ts rest a' hts hread
  cases hread
  exact ⟨h, hts⟩

/-- Two parsers in a row. The second may rely on the property of what the first has read: it is
given tokens of the same sort. -/
theorem bind {p : Parser α} {f : α → Parser β} (hp : p.Yields P)
    (hf : ∀ a, P a → (f a).Yields Q) : (p >>= f).Yields Q := by
  intro s ts rest b hts hread
  obtain ⟨⟨a, between⟩, ha, hb⟩ := bind_eq_ok_iff.1 hread
  obtain ⟨hPa, hbetween⟩ := hp s ts between a hts ha
  exact hf a hPa s between rest b hbetween hb

/-- What is made of the thing that is read. -/
theorem map {p : Parser α} {f : α → β} (hp : p.Yields P) (hf : ∀ a, P a → Q (f a)) :
    (f <$> p).Yields Q := by
  intro s ts rest b hts hread
  obtain ⟨⟨a, between⟩, ha, hb⟩ := bind_eq_ok_iff.1 hread
  obtain rfl : f a = b := congrArg Prod.fst (Except.ok.inj hb)
  obtain rfl : between = rest := congrArg Prod.snd (Except.ok.inj hb)
  obtain ⟨hPa, hbetween⟩ := hp s ts between a hts ha
  exact ⟨hf a hPa, hbetween⟩

/-- A weaker property. -/
theorem mono {p : Parser α} {P' : α → Prop} (hp : p.Yields P) (h : ∀ a, P a → P' a) :
    p.Yields P' := by
  intro s ts rest a hts hread
  obtain ⟨hPa, hrest⟩ := hp s ts rest a hts hread
  exact ⟨h a hPa, hrest⟩

/-- A step that takes nothing from the tokens. -/
theorem of_rest_eq {p : Parser α} (h : ∀ {s ts rest a}, p s ts = .ok (a, rest) → P a ∧ rest = ts) :
    p.Yields P := by
  intro s ts rest a hts hread
  obtain ⟨hPa, rfl⟩ := h hread
  exact ⟨hPa, hts⟩

/-- A parser that always fails yields every property. -/
theorem fail {expected : List String} : (Parser.fail expected : Parser α).Yields P :=
  of_rest_eq fun hread ↦ by cases hread

/-- A refusal with a reason of its own reads nothing either. -/
theorem refuse {position : Position} {reason : String} :
    (Parser.refuse position reason : Parser α).Yields P :=
  of_rest_eq fun hread ↦ by cases hread

/-- The next token may be looked at. -/
theorem peek : Parser.peek.Yields fun _ ↦ True :=
  of_rest_eq fun hread ↦ by
    cases hread
    exact ⟨trivial, rfl⟩

/-- The place of the next token may be asked for. -/
theorem position : Parser.position.Yields fun _ ↦ True :=
  of_rest_eq fun hread ↦ by
    cases hread
    exact ⟨trivial, rfl⟩

/-- The setting may be asked for. -/
theorem read : (MonadReader.read : Parser Setting).Yields fun _ ↦ True :=
  of_rest_eq fun hread ↦ by
    cases hread
    exact ⟨trivial, rfl⟩

/-- A literal whose meaning is at fault stops the parser, and any other is left where it is. -/
theorem demandMeaning {which : LiteralFault → Bool} :
    (Parser.demandMeaning which).Yields fun _ ↦ True := by
  refine of_rest_eq fun hread ↦ ?_
  unfold Parser.demandMeaning at hread
  split at hread
  · split at hread
    · cases hread
    · cases hread
      exact ⟨trivial, rfl⟩
  · cases hread
    exact ⟨trivial, rfl⟩

/-- What is made of a token that is taken. -/
theorem take {expected : List String} {f : Lexeme → Option α}
    (h : ∀ (t : Token) a, t.Spelled → f t.lexeme = some a → P a) :
    (Parser.take expected f).Yields P := by
  intro s ts rest a hts hread
  unfold Parser.take at hread
  split at hread
  · cases hread
  · rw [List.forall_mem_cons] at hts
    split at hread
    · rename_i heq
      cases hread
      exact ⟨h _ _ hts.1 heq, hts.2⟩
    · cases hread

/-- A token that may be missing. -/
theorem take? {f : Lexeme → Option α} : (Parser.take? f).Yields fun _ ↦ True := by
  intro s ts rest a hts hread
  unfold Parser.take? at hread
  split at hread
  · cases hread
    exact ⟨trivial, hts⟩
  · split at hread
    · cases hread
      exact ⟨trivial, fun t ht ↦ hts t (List.mem_cons_of_mem _ ht)⟩
    · cases hread
      exact ⟨trivial, hts⟩

/-- A name that is read is a GraphQL name. -/
theorem name : Parser.name.Yields (isName · = true) := take fun _ _ ht h ↦ ht _ h

/-- A mark that is asked for. -/
theorem punct {mark : Punct} : (Parser.punct mark).Yields fun _ ↦ True := take fun _ _ _ _ ↦ trivial

/-- A keyword that is asked for. -/
theorem word {text : String} : (Parser.word text).Yields fun _ ↦ True := take fun _ _ _ _ ↦ trivial

/-- A lexeme that may stand there or not. -/
theorem accept {lexeme : Lexeme} : (Parser.accept lexeme).Yields fun _ ↦ True :=
  bind take? fun _ _ ↦ pure trivial

/-- A description that may be missing. -/
theorem string? : Parser.string?.Yields fun _ ↦ True := bind demandMeaning fun _ _ ↦ take?

/-- Other words for what is missing change nothing about what is read. -/
theorem insteadOf {expected : List String} {p : Parser α} (hp : p.Yields P) :
    (Parser.insteadOf expected p).Yields P := by
  intro s ts rest a hts hread
  unfold Parser.insteadOf at hread
  split at hread
  · cases hread
  · exact hp s ts rest a hts hread

/-- A choice between two parsers by what a first one has found. -/
theorem bind_ite {p : Parser β} {c : β → Prop} [DecidablePred c] {yes no : Parser α}
    (hp : p.Yields fun _ ↦ True) (hyes : yes.Yields P) (hno : no.Yields P) :
    (p >>= fun b ↦ if c b then yes else no).Yields P := by
  refine bind hp fun b _ ↦ ?_
  split
  · exact hyes
  · exact hno

/-- One item and then the others. -/
theorem cons {item : Parser α} {items : Parser (List α)} (hitem : item.Yields P)
    (hitems : items.Yields fun l ↦ ∀ a ∈ l, P a) :
    Yields (do let first ← item; let rest ← items; return first :: rest) fun l ↦ ∀ a ∈ l, P a :=
  bind hitem fun _ hfirst ↦ bind hitems fun _ hrest ↦
    pure (List.forall_mem_cons.2 ⟨hfirst, hrest⟩)

/-- No items at all. -/
theorem nil : Yields (Pure.pure []) fun l : List α ↦ ∀ a ∈ l, P a :=
  pure fun _ ha ↦ absurd ha List.not_mem_nil

/-- Items up to a closing mark, in a number of steps. -/
theorem itemsBefore {called : Option String} {close : Punct} {item : Parser α}
    (hitem : item.Yields P) (steps : Nat) :
    (Parser.itemsBefore called close item steps).Yields fun l ↦ ∀ a ∈ l, P a := by
  induction steps with
  | zero => exact fail
  | succ steps ih => exact bind_ite peek nil (cons (insteadOf hitem) ih)

/-- Items up to a closing mark. -/
theorem manyBefore {called : Option String} {close : Punct} {item : Parser α}
    (hitem : item.Yields P) :
    (Parser.manyBefore called close item).Yields fun l ↦ ∀ a ∈ l, P a :=
  bind read fun _ _ ↦ itemsBefore hitem _

/-- At least one item, up to a closing mark. -/
theorem someBefore {called : Option String} {close : Punct} {item : Parser α}
    (hitem : item.Yields P) :
    (Parser.someBefore called close item).Yields fun l ↦ ∀ a ∈ l, P a :=
  cons hitem (manyBefore hitem)

/-- Items that each follow a mark, in a number of steps. -/
theorem itemsAfter {mark : Punct} {item : Parser α} (hitem : item.Yields P) (steps : Nat) :
    (Parser.itemsAfter mark item steps).Yields fun l ↦ ∀ a ∈ l, P a := by
  induction steps with
  | zero => exact fail
  | succ steps ih => exact bind_ite accept (cons hitem ih) nil

/-- Items that each follow a mark. -/
theorem manyAfter {mark : Punct} {item : Parser α} (hitem : item.Yields P) :
    (Parser.manyAfter mark item).Yields fun l ↦ ∀ a ∈ l, P a :=
  bind read fun _ _ ↦ itemsAfter hitem _

/-- At least one item, with a mark between each two. -/
theorem separated {mark : Punct} {item : Parser α} (hitem : item.Yields P) :
    (Parser.separated mark item).Yields fun l ↦ ∀ a ∈ l, P a :=
  cons hitem (manyAfter hitem)

/-- Items up to the end of the text, in a number of steps. -/
theorem itemsToEnd {item : Parser α} (hitem : item.Yields P) (steps : Nat) :
    (Parser.itemsToEnd item steps).Yields fun l ↦ ∀ a ∈ l, P a := by
  induction steps with
  | zero => exact fail
  | succ steps ih => exact bind_ite peek nil (cons (insteadOf hitem) ih)

/-- A text of at least one item. -/
theorem document {item : Parser α} (hitem : item.Yields P) :
    (Parser.document item).Yields fun l ↦ ∀ a ∈ l, P a :=
  bind hitem fun _ hfirst ↦ bind read fun _ _ ↦ bind (itemsToEnd hitem _) fun _ hrest ↦
    pure (List.forall_mem_cons.2 ⟨hfirst, hrest⟩)

/-- What stands between two marks, at whatever depth it is read. -/
theorem enclosed {opening closing : Punct} {body : Nat → Parser α}
    (hbody : ∀ depth, (body depth).Yields P) (depth : Nat) :
    (Parser.enclosed opening closing body depth).Yields P := by
  cases depth with
  | zero => exact fail
  | succ depth =>
    exact bind punct fun _ _ ↦ bind (hbody depth) fun _ ha ↦ bind punct fun _ _ ↦ pure ha

/-- What stands between two marks that may be missing. -/
theorem enclosed? {opening closing : Punct} {body : Nat → Parser α}
    (hbody : ∀ depth, (body depth).Yields P) (depth : Nat) :
    (Parser.enclosed? opening closing body depth).Yields fun found ↦ ∀ a ∈ found, P a :=
  bind_ite peek (bind (enclosed hbody depth) fun _ ha ↦ pure (by simpa using ha)) (pure (by simp))

/-- The end of the text. -/
theorem finish : Parser.finish.Yields fun _ ↦ True := by
  refine of_rest_eq fun hread ↦ ?_
  unfold Parser.finish at hread
  split at hread
  · cases hread
    exact ⟨trivial, rfl⟩
  · cases hread

/-- A parser after which nothing may follow. -/
theorem whole {p : Parser α} (hp : p.Yields P) : (p <* Parser.finish).Yields P := by
  show Yields (do let a ← p; Parser.finish; return a) P
  exact bind hp fun _ ha ↦ bind finish fun _ _ ↦ pure ha

/-- A whole text is read as something with the property. -/
theorem parse {p : Parser α} (hp : p.Yields P) {text : String} {a : α}
    (h : p.parse text = .ok a) : P a := by
  obtain ⟨⟨a', rest⟩, hread, h⟩ := bind_eq_ok_iff.1 h
  cases h
  exact (hp.whole _ _ _ _ (Lexer.spelled_lexFrom .start nestingLimit text.toList) hread).1

end Yields

end Parser

end GraphQLCheck
