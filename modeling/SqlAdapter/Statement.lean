import SqlAdapter.Criteria
import SqlAdapter.Record
import SqlAdapter.Sql.Text

/-!
# Statements

The text of a command together with the values for its placeholders. Names become part of the text,
values never do.
-/

set_option autoImplicit false

namespace SqlAdapter

@[ext] structure Statement where
  sql : String
  values : List Value
  deriving DecidableEq

namespace Statement

def ofCommand (d : Dialect) (c : Sql.Command) (values : List Value) : Statement := ⟨c.text d, values⟩

/-- The condition of a filter on its own. -/
def ofFilter (d : Dialect) (f : Filter) : Statement :=
  ⟨String.ofList (Sql.conditionChars d f.condition), f.operands⟩

/-- The limit and the offset that express a page. A dialect that needs a limit before an offset gets
the one that stands for no limit. -/
def page (d : Dialect) (limit skip : Option UInt64) : Option Int × Option Nat :=
  match limit, skip with
  | some n, s => (some n.toNat, s.map UInt64.toNat)
  | none, some s => (d.unbounded?, some s.toNat)
  | none, none => (none, none)

/-- The select command that criteria ask for. -/
def selectCommand (d : Dialect) (table : String) (c : Criteria) : Except CompileError Sql.Select := do
  let order ← match c.sort with
    | some s => s.normalize
    | none => .ok []
  .ok
    { table := table
      condition := c.filter.map Filter.condition
      order := order
      limit := (page d c.limit c.skip).1
      offset := (page d c.limit c.skip).2 }

/-- Selects the rows of a table that criteria ask for. -/
def select (d : Dialect) (table : String) (c : Criteria) : Except CompileError Statement := do
  let s ← selectCommand d table c
  .ok (ofCommand d (.select s) ((c.filter.map Filter.operands).getD []))

/-- Inserts a record. Columns and values stand in the order of the record. -/
def insert (d : Dialect) (table : String) (r : Record) : Except CompileError Statement :=
  if r.isEmpty then .error (.emptyRecord table)
  else .ok (ofCommand d (.insert table r.names) r.values)

/-- Selects the rows of a table whose primary key has the given value. -/
def lookup (d : Dialect) (table primaryKey : String) (key : Value) : Statement :=
  let atom := Filter.Atom.compare primaryKey .eq key
  ofCommand d (.select ⟨table, some (.atom atom.test), [], none, none⟩) atom.operands

/-- Lists the columns of a table. -/
def listColumns (d : Dialect) (table : String) : Statement :=
  ofCommand d .listColumns [.text table]

def createTable (d : Dialect) (table primaryKey : String) : Statement :=
  ofCommand d (.createTable table primaryKey) []

def addColumn (d : Dialect) (table column type : String) : Statement :=
  ofCommand d (.addColumn table column type) []

/-- Selects the given values themselves, each under its name. -/
def echo (d : Dialect) (columns : List (String × Value)) : Statement :=
  ofCommand d (.echo (columns.map Prod.fst)) (columns.map Prod.snd)

end Statement

end SqlAdapter
