/-!
# JSON values

The part of JSON that the library writes and reads: natural numbers are the only numbers. The
members of an object keep their order, and a member is looked up by its first occurrence
(`Json.member?`). What is read from a value is read member by member (`Json.field?`), item by item
(`Json.items?`), or by the kind of a choice (`Json.variant?`).
-/

namespace GraphQLCheck

/-- A JSON value. -/
inductive Json where
  | null
  | bool (value : Bool)
  | number (value : Nat)
  | string (text : String)
  | array (items : List Json)
  | object (members : List (String × Json))
  deriving Inhabited

namespace Json

/-- A text, or null. -/
def ofOption : Option String → Json
  | none => .null
  | some text => .string text

/-- The member of an object. -/
def member? (j : Json) (key : String) : Option Json :=
  match j with
  | .object members => members.lookup key
  | _ => none

/-- A choice between kinds: an object whose one member is named for the kind. -/
def variant? : Json → Option (String × Json)
  | .object [member] => some member
  | _ => none

/-- Nothing but null. -/
def asNull? : Json → Option Unit
  | .null => some ()
  | _ => none

/-- A truth value. -/
def asBool? : Json → Option Bool
  | .bool value => some value
  | _ => none

/-- A natural number. -/
def asNat? : Json → Option Nat
  | .number value => some value
  | _ => none

/-- A text. -/
def asString? : Json → Option String
  | .string text => some text
  | _ => none

/-- A text, or nothing for null. -/
def asOption? : Json → Option (Option String)
  | .null => some none
  | .string text => some (some text)
  | _ => none

/-- What is read from a member of an object. -/
def field? {α : Type} (j : Json) (key : String) (read : Json → Option α) : Option α :=
  (j.member? key).bind read

/-- What is read from the items of an array. -/
def items? {α : Type} (read : Json → Option α) : Json → Option (List α)
  | .array items => items.mapM read
  | _ => none

end Json

end GraphQLCheck
