import GraphQLCheck.BuiltInScalar
import GraphQLCheck.Fragments
import GraphQLCheck.Schema

/-!
# Keeping track of the enclosing type

While a document is walked, a `Tracker` holds the types that the walk is inside of, innermost first.
A type may be unknown: below a field that does not exist, or on a condition that names no type.
Nothing is known below something unknown (`Schema.fieldContext_none`), except inside a new type
condition.
-/

namespace GraphQLCheck

/-- The type that something is selected from, if it is known. -/
abbrev Context := Option NamedType

/-- The field of every composite type that gives the name of the type. -/
def typenameField : String := "__typename"

namespace Schema

/-- The context below a field with the given name. -/
def fieldContext (s : Schema) (context : Context) (name : String) : Context :=
  match context with
  | none => none
  | some t =>
    if name = typenameField then
      if t.isComposite then s.type? BuiltInScalar.string.name else none
    else (t.field? name).bind s.returnType?

@[simp] theorem fieldContext_none (s : Schema) (name : String) : s.fieldContext none name = none :=
  rfl

/-- The context below a type condition. -/
def conditionContext (s : Schema) (condition : String) : Context := s.type? condition

/-- The context of the selections of an operation. -/
def operationContext (s : Schema) (kind : OperationKind) : Context :=
  (s.rootType? kind).bind fun t ↦ s.type? t.name

/-- The context below an inline fragment: its condition, or where it stands. -/
def inlineContext (s : Schema) (context : Context) : Option String → Context
  | some condition => s.conditionContext condition
  | none => context

/-- The context of a fragment that is spread by its name. -/
def spreadContext (s : Schema) (fragments : Fragments) (name : String) : Context :=
  match fragments.get? name with
  | some f => s.conditionContext f.condition
  | none => none

end Schema

/-- The contexts that a walk is inside of, innermost first. -/
structure Tracker where
  /-- The contexts. -/
  contexts : List Context

namespace Tracker

/-- Inside of nothing. -/
def empty : Tracker := ⟨[]⟩

/-- The innermost context; outside of everything it is unknown. -/
def current (t : Tracker) : Context := t.contexts.head?.join

/-- The number of contexts that the walk is inside of. -/
def depth (t : Tracker) : Nat := t.contexts.length

/-- Goes into a context. -/
def push (t : Tracker) (context : Context) : Tracker := ⟨context :: t.contexts⟩

/-- Leaves the innermost context, if there is one. -/
def leave (t : Tracker) : Tracker := ⟨t.contexts.tail⟩

/-- Goes below a field. -/
def enterField (s : Schema) (name : String) (t : Tracker) : Tracker :=
  t.push (s.fieldContext t.current name)

/-- Goes into a fragment definition on a type. -/
def enterFragment (s : Schema) (condition : String) (t : Tracker) : Tracker :=
  t.push (s.conditionContext condition)

/-- Goes into an inline fragment. -/
def enterInline (s : Schema) (condition? : Option String) (t : Tracker) : Tracker :=
  t.push (s.inlineContext t.current condition?)

/-- Goes into the spread of a fragment. -/
def enterSpread (s : Schema) (fragments : Fragments) (name : String) (t : Tracker) : Tracker :=
  t.push (s.spreadContext fragments name)

/-- Goes into an operation. -/
def enterOperation (s : Schema) (kind : OperationKind) (t : Tracker) : Tracker :=
  t.push (s.operationContext kind)

@[simp] theorem current_push (t : Tracker) (context : Context) :
    (t.push context).current = context := rfl

@[simp] theorem leave_push (t : Tracker) (context : Context) : (t.push context).leave = t := rfl

end Tracker

end GraphQLCheck
