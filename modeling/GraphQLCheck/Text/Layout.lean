/-!
# Layout of nested values

A value written over several lines, for a reader who wants all of it: a record has a line for each
field and a list one for each item, indented by four columns, and a comma follows each of them.
-/

namespace GraphQLCheck

/-- A value to be laid out. -/
inductive Layout where
  /-- A text on one line. -/
  | atom (text : String)
  /-- A name with fields in braces. -/
  | record (name : String) (fields : List (String × Layout))
  /-- A name with one value in parentheses. -/
  | wrap (name : String) (inner : Layout)
  /-- Items in brackets. -/
  | list (items : List Layout)

namespace Layout

/-- A line inside of brackets. -/
def indent (line : String) : String := "    " ++ line

/-- Lines of which the first follows `before` and the last is followed by a comma, inside of
brackets. -/
def entry (before : String) : List String → List String
  | [] => []
  | [only] => [indent (before ++ only ++ ",")]
  | first :: rest => indent (before ++ first) :: (entry "" rest)

mutual

/-- The lines of a value. -/
def lines : Layout → List String
  | .atom text => [text]
  | .record name fields => (name ++ " \x7b") :: (fieldLines fields ++ ["\x7d"])
  | .wrap name inner => (name ++ "(") :: (entry "" inner.lines ++ [")"])
  | .list [] => ["[]"]
  | .list (item :: items) => "[" :: (itemLines (item :: items) ++ ["]"])

/-- The lines of the fields of a record. -/
def fieldLines : List (String × Layout) → List String
  | [] => []
  | (name, value) :: fields => entry (name ++ ": ") value.lines ++ fieldLines fields

/-- The lines of the items of a list. -/
def itemLines : List Layout → List String
  | [] => []
  | item :: items => entry "" item.lines ++ itemLines items

end

/-- The value over several lines. -/
def text (l : Layout) : String := "\n".intercalate l.lines

end Layout

end GraphQLCheck
