import GraphQLCheck.PathName

/-!
# Places in a source text

A `Position` is a line and a column, both counted from one, and a `Span` is the pair of positions at
the two braces of a selection set. A `Location` says where a part of a schema was defined: it is
either built into every schema or stands at a position of some source, which may or may not have a
file name. The file name is kept as it was given; locations that differ only in how it is written
have the same plain form (`Location.plain`).

Positions are ordered by line and then by column (`Position.le`), which is the order in which their
characters stand in the text.
-/

namespace GraphQLCheck

/-- A line and a column, both counted from one. -/
structure Position where
  /-- The line, counted from one. -/
  line : Nat
  /-- The column within the line, counted from one. -/
  col : Nat
  deriving DecidableEq, Repr, Inhabited

namespace Position

/-- The first character of a text. -/
def start : Position := ⟨1, 1⟩

/-- The position `n` columns further on the same line. -/
def advance (p : Position) (n : Nat) : Position := ⟨p.line, p.col + n⟩

/-- The first column of the next line. -/
def newline (p : Position) : Position := ⟨p.line + 1, 1⟩

/-- The written form of a position, its line and its column with a colon between them. -/
def text (p : Position) : String := toString p.line ++ ":" ++ toString p.col

/-- Whether `p` stands before `q` or is `q`: a smaller line, or the same line and no larger
column. -/
def le (p q : Position) : Bool := p.line < q.line || (p.line == q.line && p.col ≤ q.col)

/-- Positions in the order of the text; equal ones keep their order. -/
def sort (ps : List Position) : List Position := ps.mergeSort Position.le

end Position

/-- The positions of the opening and the closing brace of a selection set. -/
structure Span where
  /-- Where the opening brace stands. -/
  start : Position
  /-- Where the closing brace stands. -/
  stop : Position
  deriving DecidableEq, Repr, Inhabited

/-- Where a part of a schema was defined. -/
inductive Location where
  /-- Part of every schema, such as the `Int` scalar. -/
  | builtIn
  /-- Written at a position of a source, whose file name is known or not. -/
  | written (file : Option String) (position : Position)
  deriving DecidableEq, Repr, Inhabited

/-- The location with its file name in plain form. -/
def Location.plain : Location → Location
  | .builtIn => .builtIn
  | .written file position => .written (file.map PathName.plain) position

end GraphQLCheck
