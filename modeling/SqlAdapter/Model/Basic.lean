import SqlAdapter.Schema.Basic

/-!
# Models

A model names the table that holds its records, the primary key and the declared schema. The schema of
an external model is derived from the live table. The generation of a model counts the writes that made
its cached results stale; a model without a cache counts nothing.
-/

set_option autoImplicit false

namespace SqlAdapter

structure Model where
  table : String
  primaryKey : String := "_id"
  isExternal : Bool := false
  schema : Schema := ∅
  generation : Option UInt64 := some 0
  deriving DecidableEq

namespace Model

/-- Declares a field with a datatype and no constraints. -/
def addField (m : Model) (name : String) (d : Datatype) : Model :=
  { m with schema := m.schema.insert name d.descriptor }

/-- Marks cached results as stale. -/
def invalidate (m : Model) : Model := { m with generation := m.generation.map (· + 1) }

@[simp] theorem table_invalidate (m : Model) : m.invalidate.table = m.table := rfl

@[simp] theorem schema_invalidate (m : Model) : m.invalidate.schema = m.schema := rfl

@[simp] theorem generation_addField (m : Model) (n : String) (d : Datatype) :
    (m.addField n d).generation = m.generation := rfl

end Model

end SqlAdapter
