import SqlAdapter.Dialogue
import SqlAdapter.Schema.Live

/-!
# Datasources

A datasource talks to a database in one dialect. In a dry run it plans the changes of a schema and
sends none of them; it still asks which columns there are.
-/

set_option autoImplicit false

namespace SqlAdapter

structure Datasource where
  dialect : Dialect
  dryRun : Bool := false
  deriving DecidableEq, Repr

namespace Datasource

variable (ds : Datasource)

def quoteName (name : String) : String := ds.dialect.quoteName name

/-- Whether a query may follow associations from one model to another. Statements read one table. -/
def supportsAssociations (_ : Datasource) : Bool := false

def tableInfo (table : String) : Attempt LiveSchema := do
  let rows ← Attempt.query (Statement.listColumns ds.dialect table)
  Attempt.ofExcept (LiveSchema.ofRows table rows)

/-- Sends a statement that changes the schema of a table. A failure names the table and the
statement. -/
def change (table : String) (s : Statement) : Attempt Unit :=
  if ds.dryRun then pure ()
  else
    .call (.execute s) fun
      | .ok _ => .done (.ok ())
      | .error e => .done (.error (.ddl table s.sql e))

end Datasource

end SqlAdapter
