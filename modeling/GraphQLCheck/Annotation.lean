import GraphQLCheck.Source
import GraphQLCheck.TypeExpr

/-!
# Type annotations

The type of a field or a parameter in a schema: a reference to a named type under any number of
lists, each level of which is nullable or not. `Annotation.ofTypeExpr` places a written type at a
location, the same one at every level.

Two annotations are equivalent (`Annotation.equivalent`) when they differ in their locations at
most. They are the same when they differ in the spelling of file names at most, that is, when their
plain forms are equal (`Annotation.plain`).
-/

namespace GraphQLCheck

/-- A type by its name, and where it is referred to. -/
structure TypeRef where
  /-- The name of the type. -/
  name : String
  /-- Where the reference stands. -/
  location : Location
  deriving DecidableEq, Repr, Inhabited

/-- The reference with its file name in plain form. -/
def TypeRef.plain (r : TypeRef) : TypeRef := ⟨r.name, r.location.plain⟩

/-- The type of a field or of a parameter. -/
inductive Annotation where
  | named (nullable : Bool) (ref : TypeRef)
  | list (nullable : Bool) (location : Location) (inner : Annotation)
  deriving DecidableEq, Repr, Inhabited

namespace Annotation

/-- A written type at a location, under a mark or not. -/
def ofMarked (location : Location) (nullable : Bool) : TypeExpr → Annotation
  | .named name => .named nullable ⟨name, location⟩
  | .list inner => .list nullable location (ofMarked location true inner)
  | .nonNull inner => ofMarked location false inner

/-- A written type at a location. -/
def ofTypeExpr (location : Location) (type : TypeExpr) : Annotation :=
  ofMarked location true type

/-- Whether the annotated value may be null. -/
def nullable : Annotation → Bool
  | .named nullable _ => nullable
  | .list nullable _ _ => nullable

/-- Where the annotation stands. -/
def location : Annotation → Location
  | .named _ ref => ref.location
  | .list _ location _ => location

/-- The reference inside all lists. -/
def innermost : Annotation → TypeRef
  | .named _ ref => ref
  | .list _ _ inner => inner.innermost

/-- Whether each level is nullable, from the outside in, the named type last. -/
def levels : Annotation → List Bool
  | .named nullable _ => [nullable]
  | .list nullable _ inner => nullable :: inner.levels

/-- The mark of a level that is not nullable. -/
def mark (nullable : Bool) : String := if nullable then "" else "!"

/-- The GraphQL text of an annotation. -/
def text : Annotation → String
  | .named nullable ref => ref.name ++ mark nullable
  | .list nullable _ inner => "[" ++ inner.text ++ "]" ++ mark nullable

/-- Whether two annotations have the same lists, the same nullability at each level and the same
name inside. -/
def equivalent : Annotation → Annotation → Bool
  | .named nullable ref, .named nullable' ref' => nullable == nullable' && ref.name == ref'.name
  | .list nullable _ inner, .list nullable' _ inner' =>
    nullable == nullable' && inner.equivalent inner'
  | _, _ => false

/-- The annotation with its file names in plain form. -/
def plain : Annotation → Annotation
  | .named nullable ref => .named nullable ref.plain
  | .list nullable location inner => .list nullable location.plain inner.plain

end Annotation

end GraphQLCheck
