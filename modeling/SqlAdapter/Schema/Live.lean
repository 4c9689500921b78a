import SqlAdapter.Record

/-!
# Live schemas

The columns that a table has, in its order, each with the type that the database reports. A database
lists them as rows with a name and a type; a null type is an empty text. One row without them makes the
whole list worthless.
-/

set_option autoImplicit false

namespace SqlAdapter

structure Column where
  name : String
  type : String
  deriving DecidableEq, Repr

namespace Column

/-- A text of a row that lists a column. Only the type may be null. -/
def part? (key : String) (row : Record) : Option String :=
  match row.get? key with
  | some (.text s) => some s
  | some .null => if key = "type" then some "" else none
  | _ => none

def missing (table key : String) : Error :=
  .driverInconsistency table ("introspection row has no textual '" ++ key ++ "' column")

def ofRow (table : String) (row : Record) : Except Error Column :=
  match part? "name" row, part? "type" row with
  | some name, some type => .ok ⟨name, type⟩
  | none, _ => .error (missing table "name")
  | some _, none => .error (missing table "type")

end Column

/-- The columns of a table; one that does not exist has none. -/
@[ext] structure LiveSchema where
  columns : List Column
  deriving DecidableEq, Repr

namespace LiveSchema

def names (l : LiveSchema) : List String := l.columns.map Column.name

/-- Whether a column has exactly this name. -/
def contains (l : LiveSchema) (name : String) : Bool := l.columns.any fun c => c.name = name

def reportedType? (l : LiveSchema) (name : String) : Option String :=
  (l.columns.find? fun c => c.name = name).map Column.type

def ofRows (table : String) (rows : List Record) : Except Error LiveSchema :=
  (rows.mapM (Column.ofRow table)).map LiveSchema.mk

theorem contains_iff {l : LiveSchema} {n : String} : l.contains n = true ↔ n ∈ l.names := by
  simp [contains, names]

end LiveSchema

end SqlAdapter
