import GraphQLCheck.Dict
import GraphQLCheck.Document

/-!
# Fragments by name

A register of fragment definitions. The first definition of a name stays: another one of the same
name is turned away (`Fragments.add`). Operations of a document are passed over.
-/

namespace GraphQLCheck

/-- Fragment definitions by name, in the order in which they came. -/
structure Fragments where
  /-- The definitions. -/
  byName : Dict Fragment

namespace Fragments

/-- No fragments. -/
def empty : Fragments := ⟨.empty⟩

/-- The fragment of a name. -/
def get? (r : Fragments) (name : String) : Option Fragment := r.byName.get? name

/-- The names of the fragments, in the order in which they came. -/
def names (r : Fragments) : List String := r.byName.keys

/-- The number of fragments. -/
def size (r : Fragments) : Nat := r.byName.size

/-- Whether there are no fragments. -/
def isEmpty (r : Fragments) : Bool := r.byName.entries.isEmpty

/-- Adds a fragment unless there is one of its name, and tells whether it was added. -/
def add (r : Fragments) (f : Fragment) : Fragments × Bool :=
  if r.byName.contains f.name then (r, false) else (⟨r.byName.insert f.name f⟩, true)

/-- Adds a definition if it is a fragment. -/
def addDefinition (r : Fragments) : Definition → Fragments
  | .fragment f => (r.add f).1
  | .operation _ => r

/-- Adds the fragments of a document. -/
def addDocument (r : Fragments) (d : Document) : Fragments := d.definitions.foldl addDefinition r

/-- The fragments of a document. -/
def ofDocument (d : Document) : Fragments := empty.addDocument d

end Fragments

end GraphQLCheck
