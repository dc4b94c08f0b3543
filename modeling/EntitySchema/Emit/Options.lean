import EntitySchema.Schema.Model

/-!
# Emit options

What every language's writer shares: whether headers carry the creation date, and the namespace
(C++, C#) or package (Java) of entities that name none. A Java package is the entity's own
package, else its namespace, else the default.
-/

namespace EntitySchema.Emit

/-- Settings shared by the writers of every language. -/
structure EmitOptions where
  /-- Stamp the creation date into each file header. -/
  timestamp : Bool := true
  /-- The namespace or package of entities that name none. -/
  defaultNamespace : String := "models"

namespace EmitOptions

def namespaceFor (o : EmitOptions) (e : ResolvedEntity) : String := e.namespaceName.getD o.defaultNamespace

/-- The Java package of an entity: its package, then its namespace. -/
def packageFor (o : EmitOptions) (e : ResolvedEntity) : String := e.package.getD (o.namespaceFor e)

/-- The date to stamp, given the time of writing, when stamping is on. -/
def creationDate (o : EmitOptions) (now : String) : Option String :=
  if o.timestamp then some now else none

end EmitOptions

def fingerprintLabel : String := "Fingerprint: "

end EntitySchema.Emit
