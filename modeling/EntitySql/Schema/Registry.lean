import EntitySql.Entity.Basic

/-!
# The registry of schemas

Schemas are built at first use and kept under the name of their type; every later use finds the
same schema. A schema that cannot be built is not kept.
-/

namespace EntitySql

set_option autoImplicit false

/-- The schemas built so far, under the names of their types. -/
structure SchemaRegistry where
  entries : List (String × EntitySchema)

namespace SchemaRegistry

/-- The registry at the start. -/
def empty : SchemaRegistry := ⟨[]⟩

/-- How many schemas were built. -/
def size (r : SchemaRegistry) : Nat := r.entries.length

/-- The schema kept for a type. -/
def get? (r : SchemaRegistry) (typeName : String) : Option EntitySchema :=
  (r.entries.find? fun entry => entry.1 == typeName).map Prod.snd

/-- The schema of the type was built. -/
def contains (r : SchemaRegistry) (typeName : String) : Bool := (r.get? typeName).isSome

/-- The schema of an entity, built if it is not there. -/
def schema (r : SchemaRegistry) (e : Entity) : Except Error (EntitySchema × SchemaRegistry) :=
  match r.get? e.typeName with
  | some s => .ok (s, r)
  | none => e.schema.map fun s => (s, ⟨r.entries ++ [(e.typeName, s)]⟩)

end SchemaRegistry

end EntitySql
