import GraphQLCheck.Suggestion.EditDistance

/-!
# Suggestions for a misspelt name

`suggest` picks, from the names that would have been right, those near the name that was written. A
candidate is near when its edit distance is at most half the length of the written name, rounded up,
and at least one (`threshold`). Nearer candidates come first, and candidates at the same distance
keep their order, since `List.mergeSort` is stable.

`orList` words a list of names for a message.
-/

namespace GraphQLCheck

namespace Suggestion

/-- The most suggestions that a message makes. -/
def maxCount : Nat := 5

/-- The largest distance at which a candidate is still near `target`: half the length rounded up,
and at least one. -/
def threshold (target : String) : Nat := max 1 ((target.toList.length + 1) / 2)

/-- The number of edits between the written name and a candidate. -/
def distance (target candidate : String) : Nat :=
  editDistance target.toList candidate.toList

/-- The candidates near `target`, each with its distance, in the order given. -/
def near (target : String) (candidates : List String) : List (Nat × String) :=
  (candidates.map fun c ↦ (distance target c, c)).filter fun s ↦ s.1 ≤ threshold target

end Suggestion

/-- The `count` nearest of the candidates that are near `target`, nearest first. -/
def suggest (target : String) (candidates : List String) (count : Nat) : List String :=
  (((Suggestion.near target candidates).mergeSort fun s t ↦ s.1 ≤ t.1).take count).map Prod.snd

/-- A name between double quotes. -/
def quoted (name : String) : String := "\"" ++ name ++ "\""

/-- The items of a list of three or more: a comma after each, and `or` before the last. -/
def orTail : List String → String
  | [] => ""
  | [last] => "or " ++ quoted last
  | item :: rest => quoted item ++ ", " ++ orTail rest

/-- Names in quotes, joined as in a sentence: nothing, one name, two with `or` between them, and
three or more with commas and a final `or`. -/
def orList : List String → String
  | [] => ""
  | [only] => quoted only
  | [first, second] => quoted first ++ " or " ++ quoted second
  | items => orTail items

end GraphQLCheck
