import ReplyActions.Handler

/-!
# Catalogs

The registered handlers, by the canonical form of their identifier. Registering an identifier again
replaces the handler and keeps its place.
-/

namespace ReplyActions

structure Catalog (α : Type) where
  /-- The handlers by canonical identifier, in order of first registration. -/
  handlers : Registry (Handler α)

namespace Catalog

variable {α : Type}

def empty : Catalog α := ⟨.empty⟩

instance : Inhabited (Catalog α) := ⟨empty⟩

def lookup (catalog : Catalog α) (id : String) : Option (Handler α) :=
  catalog.handlers.get? (canonicalId id)

def contains (catalog : Catalog α) (id : String) : Bool := (catalog.lookup id).isSome

/-- The catalog with one more handler, and the handler that had its identifier before. -/
def register (catalog : Catalog α) (handler : Handler α) : Option (Handler α) × Catalog α :=
  (catalog.lookup handler.definition.id,
    ⟨catalog.handlers.put (canonicalId handler.definition.id) handler⟩)

/-- The catalog of a list of handlers, registered from left to right. -/
def ofList (handlers : List (Handler α)) : Catalog α :=
  handlers.foldl (fun catalog handler => (catalog.register handler).2) empty

def toList (catalog : Catalog α) : List (Handler α) := catalog.handlers.values

def inCategory (catalog : Catalog α) (category : Category) : List (Handler α) :=
  catalog.toList.filter fun handler => handler.definition.category = category

def size (catalog : Catalog α) : Nat := catalog.handlers.size

def isEmpty (catalog : Catalog α) : Bool := catalog.handlers.entries.isEmpty

end Catalog

end ReplyActions
