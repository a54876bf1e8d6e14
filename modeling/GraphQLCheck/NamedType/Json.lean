import GraphQLCheck.Json
import GraphQLCheck.NamedType

/-!
# Types as JSON

The JSON form of a type, and the type of a JSON form. A choice between kinds is an object with one
member named for the kind; a built-in location is just its name. Dictionaries are objects in their
order. Each `toJson` stands beside the `ofJson?` that reads it back, which finds members by their
names and not by their places.
-/

namespace GraphQLCheck

/-- The JSON form of a dictionary. -/
def Dict.toJson {α : Type} (encode : α → Json) (d : Dict α) : Json :=
  .object (d.entries.map fun (key, value) ↦ (key, encode value))

/-- The dictionary of a JSON form. -/
def Dict.ofJson? {α : Type} (read : Json → Option α) : Json → Option (Dict α)
  | .object members => do
    return .ofList (← members.mapM fun (key, value) ↦ (read value).map fun a ↦ (key, a))
  | _ => none

/-- The JSON form of a position. -/
def Position.toJson (p : Position) : Json :=
  .object [("line", .number p.line), ("col", .number p.col)]

/-- The position of a JSON form. -/
def Position.ofJson? (j : Json) : Option Position := do
  return ⟨← j.field? "line" Json.asNat?, ← j.field? "col" Json.asNat?⟩

/-- The JSON form of a location. -/
def Location.toJson : Location → Json
  | .builtIn => .string "GraphQLBuiltIn"
  | .written file position =>
    .object [("Schema", .object [("file", .ofOption file), ("position", position.toJson)])]

/-- The location of a JSON form. -/
def Location.ofJson? (j : Json) : Option Location :=
  match j with
  | .string text => if text = "GraphQLBuiltIn" then some .builtIn else none
  | _ => do
    let (kind, body) ← j.variant?
    if kind = "Schema" then
      return .written (← body.field? "file" Json.asOption?)
        (← body.field? "position" Position.ofJson?)
    else none

/-- The JSON form of a reference to a type. -/
def TypeRef.toJson (r : TypeRef) : Json :=
  .object [("name", .string r.name), ("phantom", .null), ("ref_location", r.location.toJson)]

/-- The reference of a JSON form. -/
def TypeRef.ofJson? (j : Json) : Option TypeRef := do
  let name ← j.field? "name" Json.asString?
  let () ← j.field? "phantom" Json.asNull?
  return ⟨name, ← j.field? "ref_location" Location.ofJson?⟩

/-- The JSON form of an annotation. -/
def Annotation.toJson : Annotation → Json
  | .named nullable ref =>
    .object [("Named", .object [("nullable", .bool nullable), ("type_ref", ref.toJson)])]
  | .list nullable location inner =>
    .object [("List", .object
      [("inner_type_ref", inner.toJson), ("nullable", .bool nullable),
        ("ref_location", location.toJson)])]

mutual

/-- The annotation of a JSON form. -/
def Annotation.ofJson? : Json → Option Annotation
  | .object [(kind, .object members)] =>
    let body := Json.object members
    if kind = "List" then do
      return .list (← body.field? "nullable" Json.asBool?)
        (← body.field? "ref_location" Location.ofJson?) (← Annotation.ofMembers? members)
    else if kind = "Named" then do
      return .named (← body.field? "nullable" Json.asBool?)
        (← body.field? "type_ref" TypeRef.ofJson?)
    else none
  | _ => none

/-- The annotation inside of a list, from the members of its JSON form. -/
def Annotation.ofMembers? : List (String × Json) → Option Annotation
  | [] => none
  | (key, j) :: members =>
    if "inner_type_ref" = key then Annotation.ofJson? j else Annotation.ofMembers? members

end

/-- The JSON form of a parameter. -/
def Parameter.toJson (p : Parameter) : Json :=
  .object
    [("def_location", p.location.toJson), ("default_value", .ofOption p.default?),
      ("description", .ofOption p.description?), ("name", .string p.name),
      ("type_annotation", p.annotation.toJson)]

/-- The parameter of a JSON form. -/
def Parameter.ofJson? (j : Json) : Option Parameter := do
  return {
    name := ← j.field? "name" Json.asString?
    annotation := ← j.field? "type_annotation" Annotation.ofJson?
    default? := ← j.field? "default_value" Json.asOption?
    description? := ← j.field? "description" Json.asOption?
    location := ← j.field? "def_location" Location.ofJson? }

/-- The JSON form of a field. -/
def Field.toJson (f : Field) : Json :=
  .object
    [("def_location", f.location.toJson), ("description", .ofOption f.description?),
      ("name", .string f.name), ("parameters", f.parameters.toJson Parameter.toJson),
      ("parent_type_name", .string f.parent), ("type_annotation", f.annotation.toJson)]

/-- The field of a JSON form. -/
def Field.ofJson? (j : Json) : Option Field := do
  return {
    name := ← j.field? "name" Json.asString?
    parent := ← j.field? "parent_type_name" Json.asString?
    annotation := ← j.field? "type_annotation" Annotation.ofJson?
    parameters := ← j.field? "parameters" (Dict.ofJson? Parameter.ofJson?)
    description? := ← j.field? "description" Json.asOption?
    location := ← j.field? "def_location" Location.ofJson? }

/-- The JSON form of an enum value. -/
def EnumValue.toJson (v : EnumValue) : Json :=
  .object
    [("def_location", v.location.toJson), ("description", .ofOption v.description?),
      ("name", .string v.name)]

/-- The enum value of a JSON form. -/
def EnumValue.ofJson? (j : Json) : Option EnumValue := do
  return {
    name := ← j.field? "name" Json.asString?
    description? := ← j.field? "description" Json.asOption?
    location := ← j.field? "def_location" Location.ofJson? }

/-- The members of the JSON form that depend on the kind of the type. -/
def Shape.toMembers : Shape → List (String × Json)
  | .enum values => [("values", values.toJson EnumValue.toJson)]
  | .input fields => [("fields", fields.toJson Parameter.toJson)]
  | .interface fields interfaces =>
    [("fields", fields.toJson Field.toJson), ("interfaces", .array (interfaces.map TypeRef.toJson))]
  | .object fields interfaces =>
    [("fields", fields.toJson Field.toJson), ("interfaces", .array (interfaces.map TypeRef.toJson))]
  | .scalar => []
  | .union members => [("members", members.toJson TypeRef.toJson)]

/-- What a type of a kind holds, from its JSON form. -/
def Shape.ofJson? (kind : Kind) (j : Json) : Option Shape :=
  match kind with
  | .enum => do return .enum (← j.field? "values" (Dict.ofJson? EnumValue.ofJson?))
  | .inputObject => do return .input (← j.field? "fields" (Dict.ofJson? Parameter.ofJson?))
  | .interface => do
    return .interface (← j.field? "fields" (Dict.ofJson? Field.ofJson?))
      (← j.field? "interfaces" (Json.items? TypeRef.ofJson?))
  | .object => do
    return .object (← j.field? "fields" (Dict.ofJson? Field.ofJson?))
      (← j.field? "interfaces" (Json.items? TypeRef.ofJson?))
  | .scalar => some .scalar
  | .union => do return .union (← j.field? "members" (Dict.ofJson? TypeRef.ofJson?))

/-- The members of the JSON form of a type, inside of its kind. -/
def NamedType.toMembers (t : NamedType) : List (String × Json) :=
  [("def_location", t.location.toJson), ("description", .ofOption t.description?),
    ("name", .string t.name)] ++ t.shape.toMembers

/-- The JSON form of a type. -/
def NamedType.toJson (t : NamedType) : Json := .object [(t.kind.name, .object t.toMembers)]

/-- The type of a JSON form. -/
def NamedType.ofJson? (j : Json) : Option NamedType := do
  let (name, body) ← j.variant?
  let kind ← Kind.ofName? name
  return {
    name := ← body.field? "name" Json.asString?
    description? := ← body.field? "description" Json.asOption?
    location := ← body.field? "def_location" Location.ofJson?
    shape := ← Shape.ofJson? kind body }

end GraphQLCheck
