import GraphQLCheck.Rule
import GraphQLCheck.Suggestion

/-!
# Fields exist on the type they are selected from

`checkField` finds what is wrong with selecting a field from a type. A field that an object or
interface does not declare is wrong, and so is every field on a union. If some of the types that can
appear in the place of the type declare it, they are suggested; otherwise fields of the type with a
similar name are. The introspection fields are right everywhere, and leaf types are not looked at.

`fieldSelection` is the rule that reports these errors, at the fields that stand in a known context.
-/

namespace GraphQLCheck

/-- Why a field cannot be selected from a type. -/
inductive FieldError where
  /-- Neither the type nor one that can appear in its place has the field; fields with a similar
  name are suggested. -/
  | unknown (field type : String) (fields : List String)
  /-- Only types that can appear in the place of the type have the field. -/
  | onPossibleTypes (field type : String) (types : List String)
  deriving DecidableEq, Repr

/-- The names that the error suggests. -/
def FieldError.suggested : FieldError → List String
  | unknown _ _ fields => fields
  | onPossibleTypes _ _ types => types

/-- The first sentence of the message. -/
def cannotQuery (field type : String) : String :=
  "Cannot query field " ++ quoted field ++ " on type " ++ quoted type ++ "."

/-- The question after the message, if there is anything to suggest. -/
def question (lead : String) (names : List String) : String :=
  if names.isEmpty then "" else " Did you mean " ++ lead ++ orList names ++ "?"

/-- The error in words. -/
def FieldError.message : FieldError → String
  | unknown field type fields => cannotQuery field type ++ question "" fields
  | onPossibleTypes field type types =>
    cannotQuery field type ++ question "to use an inline fragment on " types

/-- The fields that belong to introspection. -/
def metaFields : List String := ["__schema", "__type", typenameField]

/-- The types in the place of `t` that have the field. -/
def possibleOwners (s : Schema) (t : NamedType) (field : String) : List String :=
  ((s.possibleTypes t).filter fun u ↦ (u.field? field).isSome).map NamedType.name

/-- The error of selecting a field that the type does not declare, where `similar` are the fields to
suggest. -/
def fieldError (s : Schema) (t : NamedType) (field : String) (similar : List String) : FieldError :=
  let owners := possibleOwners s t field
  if owners.isEmpty then .unknown field t.name similar else .onPossibleTypes field t.name owners

/-- What is wrong with selecting a field from a type, if anything is. -/
def checkField (s : Schema) (t : NamedType) (field : String) : Option FieldError :=
  if metaFields.contains field then none
  else match t.shape with
    | .interface fields _ | .object fields _ =>
      if fields.contains field then none
      else some (fieldError s t field (suggest field fields.keys Suggestion.maxCount))
    | .union _ => some (fieldError s t field [])
    | .enum _ | .input _ | .scalar => none

/-- Reports every field that cannot be selected from the type around it. -/
def fieldSelection : Rule where
  name := "FieldsOnCorrectType"
  report event scene :=
    match event.phase, event.node with
    | .enter, .field head _ _ =>
      match scene.current.bind fun t ↦ checkField scene.schema t head.name with
      | some error => [⟨error.message, [head.position]⟩]
      | none => []
    | _, _ => []

/-- The rules that are used unless others are asked for. -/
def defaultRules : List Rule := [fieldSelection]

end GraphQLCheck
