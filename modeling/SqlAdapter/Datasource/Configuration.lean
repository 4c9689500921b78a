import SqlAdapter.Datasource.Basic
import SqlAdapter.Model.Basic

/-!
# Configuring tables

A table is brought up to the schema that a model declares by creating it with its key alone and adding
the columns that it lacks, in the order of the declaration. Columns that are there are left as they are.
An external model gets its schema from the table instead.

The first field without a column type and the first statement that fails end the work; columns added
before stay.
-/

set_option autoImplicit false

namespace SqlAdapter

/-- A column to be added to a table. -/
structure NewColumn where
  table : String
  column : Column
  deriving DecidableEq, Repr

def NewColumn.statement (d : Dialect) (n : NewColumn) : Statement :=
  .addColumn d n.table n.column.name n.column.type

/-- What configuring a table has done, or would do in a dry run. -/
structure Report where
  statements : List String := []
  derived : List (String × Datatype) := []
  deriving DecidableEq

def Report.isEmpty (r : Report) : Bool := r.statements.isEmpty && r.derived.isEmpty

namespace Datasource

variable (ds : Datasource)

def newColumn (table : String) (f : Field) : Except Error NewColumn :=
  match Datatype.parse? f.descriptor.datatype with
  | some t => .ok ⟨table, f.name, t.columnType⟩
  | none => .error (.unknownDatatype table f.name f.descriptor.datatype)

/-- The fields that have no column of exactly their name. -/
def lacking (schema : Schema) (live : LiveSchema) : List Field :=
  schema.fields.filter fun f => !live.contains f.name

def planColumns (table : String) (schema : Schema) (live : LiveSchema) :
    Except Error (List NewColumn) :=
  (lacking schema live).mapM (newColumn table)

/-- Creates a table with its key alone, if there is none; gives the text of the statement. -/
def ensureTable (table primaryKey : String) : Attempt String := do
  let s := Statement.createTable ds.dialect table primaryKey
  ds.change table s
  pure s.sql

/-- Adds the column of each field in turn; gives the texts of the statements. -/
def addColumns (table : String) : List Field → Attempt (List String)
  | [] => pure []
  | f :: fs => do
    let column ← Attempt.ofExcept (newColumn table f)
    let s := column.statement ds.dialect
    ds.change table s
    let rest ← addColumns table fs
    pure (s.sql :: rest)

/-- Adds the columns that a table lacks. -/
def reconcileColumns (table : String) (schema : Schema) : Attempt Report := do
  let live ← ds.tableInfo table
  let statements ← ds.addColumns table (lacking schema live)
  pure { statements := statements }

/-- The datatypes behind the columns of a table; a column without one is left out. -/
def derivedFields (live : LiveSchema) : List (String × Datatype) :=
  live.columns.filterMap fun c => (ds.dialect.reverseType? c.type).map fun t => (c.name, t)

/-- The model with each derived field declared. -/
def declare (m : Model) (derived : List (String × Datatype)) : Model :=
  derived.foldl (fun m f => m.addField f.1 f.2) m

/-- Declares the fields of a model after the columns of its table. Without the columns the model stays
as it is. -/
def loadExternalSchema (m : Model) : Dialogue (Except Error (List (String × Datatype)) × Model) := do
  match ← (ds.tableInfo m.table).run with
  | .ok live =>
    let derived := ds.derivedFields live
    pure (.ok derived, declare m derived)
  | .error e => pure (.error e, m)

/-- Makes the table and the schema of a model agree. -/
def configureTable (m : Model) : Dialogue (Except Error Report × Model) :=
  if m.isExternal then do
    let (derived, m) ← ds.loadExternalSchema m
    pure (derived.map fun d => { derived := d }, m)
  else do
    let report ← ExceptT.run do
      let create ← ds.ensureTable m.table m.primaryKey
      let report ← ds.reconcileColumns m.table m.schema
      pure { report with statements := create :: report.statements }
    pure (report, m)

end Datasource

end SqlAdapter
