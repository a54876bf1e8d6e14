import GraphQLCheck.BuiltInScalar
import GraphQLCheck.NamedType
import GraphQLCheck.Value

/-!
# Coercion of literals

Whether a literal is a value of a scalar or an enum, and which. Each built-in scalar takes its own
kind of literal; `Float` and `ID` take integers too. A scalar that a schema defines takes every
literal but null and a variable, as it stands. An enum takes the names of its values.
-/

namespace GraphQLCheck

/-- What a literal is as a value of a scalar or an enum. -/
inductive Coerced where
  | boolean (value : Bool)
  | enum (name : String)
  | float (value : Binary64)
  | id (text : String)
  | int (value : Int)
  | literal (value : Value)
  | string (text : String)

/-- Whether an integer fits in 32 bits with a sign. -/
def fits32 (i : Int) : Bool := -2147483648 ≤ i && i ≤ 2147483647

/-- A literal as a value of a built-in scalar. -/
def BuiltInScalar.coerce? : BuiltInScalar → Value → Option Coerced
  | .boolean, .boolean b => some (.boolean b)
  | .float, .float x => if x.isFinite then some (.float x) else none
  | .float, .int i => some (.float (.ofInt i))
  | .id, .string s => some (.id s)
  | .id, .int i => some (.id (toString i))
  | .int, .int i => if fits32 i then some (.int i) else none
  | .string, .string s => some (.string s)
  | _, _ => none

/-- A literal as a value of a scalar that a schema defines. -/
def coerceCustom? : Value → Option Coerced
  | .null => none
  | .variable _ => none
  | value => some (.literal value)

/-- A literal as a value of the scalar with the given name. -/
def coerceScalar? (name : String) (value : Value) : Option Coerced :=
  match BuiltInScalar.ofName? name with
  | some s => s.coerce? value
  | none => coerceCustom? value

/-- A literal as one of the values of an enum. -/
def coerceEnum? (values : Dict EnumValue) : Value → Option Coerced
  | .enum name => if values.contains name then some (.enum name) else none
  | _ => none

/-- How literals become values of a type, which only scalars and enums allow. -/
def NamedType.coercion? (t : NamedType) : Option (Value → Option Coerced) :=
  match t.shape with
  | .scalar => some (coerceScalar? t.name)
  | .enum values => some (coerceEnum? values)
  | _ => none

end GraphQLCheck
