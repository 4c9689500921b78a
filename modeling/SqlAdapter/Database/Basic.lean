import SqlAdapter.Database.Table
import SqlAdapter.Dialogue
import SqlAdapter.Sql.Reader

/-!
# Databases

A database that understands the statements of this library: it reads a command back from its text and
carries it out on tables in memory. A statement that fails changes nothing. The wording and the codes of
its refusals are those of SQLite.

A selection names its table before its columns, and the columns of its condition before those of its
order; the first name that is unknown is the one reported.
-/

set_option autoImplicit false

namespace SqlAdapter

structure Database where
  dialect : Dialect
  rule : NameRule
  tables : List Table
  deriving DecidableEq

namespace Database

/-- A table that lists the tables of a SQLite database. -/
def catalogue (name : String) : Table :=
  .fresh name
    [⟨"type", "TEXT"⟩, ⟨"name", "TEXT"⟩, ⟨"tbl_name", "TEXT"⟩, ⟨"rootpage", "INT"⟩, ⟨"sql", "TEXT"⟩]
    none

/-- A new SQLite database. Its catalogue goes by two names. -/
def sqlite : Database := ⟨.sqlite, .ignoringCase, ["sqlite_schema", "sqlite_master"].map catalogue⟩

inductive Outcome where
  | changed (rows : UInt64)
  | rows (rs : List Record)

def Outcome.ack : Outcome → Ack
  | changed n => .affected n
  | rows _ => .affected 0

def Outcome.records : Outcome → List Record
  | changed _ => []
  | rows rs => rs

def noTable (name : String) : DriverFault := .reported 1 ("no such table: " ++ name)

def noColumn (name : String) : DriverFault := .reported 1 ("no such column: " ++ name)

def noColumnNamed (table name : String) : DriverFault :=
  .reported 1 ("table " ++ table ++ " has no column named " ++ name)

def duplicateColumn (name : String) : DriverFault := .reported 1 ("duplicate column name: " ++ name)

def tableExists (name : String) : DriverFault := .reported 1 ("table " ++ name ++ " already exists")

def keyExists (table key : String) : DriverFault :=
  .reported 1555 ("UNIQUE constraint failed: " ++ table ++ "." ++ key)

def mismatch : DriverFault := .reported 20 "datatype mismatch"

def notUnderstood : DriverFault := .reported 1 "syntax error"

variable (db : Database)

def table? (name : String) : Option Table := db.tables.find? fun t => db.rule.same t.name name

/-- Replaces the table of a name by what `f` makes of it. -/
def update (name : String) (f : Table → Table) : Database :=
  { db with tables := db.tables.modify (db.tables.findIdx fun t => db.rule.same t.name name) f }

def createTable (table key : String) : Database :=
  match db.table? table with
  | some _ => db
  | none =>
    { db with tables := db.tables ++ [.fresh table [⟨key, db.dialect.keyType⟩] (some key)] }

/-- The database with a new table that has columns of the caller's choice and no key. -/
def createKeyless (table : String) (columns : List Column) : Except DriverFault Database :=
  match db.table? table, repeated? columns with
  | some _, _ => .error (tableExists table)
  | none, some name => .error (duplicateColumn name)
  | none, none => .ok { db with tables := db.tables ++ [.fresh table columns none] }
where
  repeated? : List Column → Option String
    | [] => none
    | c :: cs =>
      match cs.find? fun d => db.rule.same c.name d.name with
      | some d => some d.name
      | none => repeated? cs

def addColumn (table : String) (c : Column) : Except DriverFault Database :=
  match db.table? table with
  | none => .error (noTable table)
  | some t =>
    if t.has db.rule c.name then .error (duplicateColumn c.name)
    else .ok (db.update table (·.addColumn c))

/-- The listing of the columns of a table; there is none for a table that does not exist. -/
def columnRows (table : String) : List Record :=
  match db.table? table with
  | none => []
  | some t => t.columns.map fun c => .ofList [("name", .text c.name), ("type", .text c.type)]

def insert (table : String) (columns : List String) (values : List Value) :
    Except DriverFault Database :=
  match db.table? table with
  | none => .error (noTable table)
  | some t =>
    match t.unknown? db.rule columns with
    | some name => .error (noColumnNamed table name)
    | none =>
      let content := Table.assigned db.rule columns values
      match t.key.bind (t.column? db.rule) with
      | some key =>
        if t.keyTaken db.rule key.name (content key) then .error (keyExists t.name key.name)
        else .ok (db.update table (·.addRow content))
      | none => .ok (db.update table (·.addRow content))

/-- Whether a page can be given: its limit must fit a signed 64-bit integer, and its offset too, which
counts for nothing where the limit is zero. -/
def pageFits (s : Sql.Select) : Bool :=
  s.limit.all (fun n => decide (n < 9223372036854775808)) &&
    (s.limit = some 0 || s.offset.all fun n => decide (n < 9223372036854775808))

def select (s : Sql.Select) (values : List Value) : Except DriverFault (List Record) :=
  match db.table? s.table with
  | none => .error (noTable s.table)
  | some t =>
    match t.unknown? db.rule
        ((s.condition.map Sql.columnsOf).getD [] ++ s.order.map Prod.fst) with
    | some name => .error (noColumn name)
    | none =>
      if db.dialect = .sqlite ∧ !pageFits s then .error mismatch
      else .ok ((t.selected db.rule s values).map t.record)

/-- The database after a change, or unchanged after a refusal. -/
def settle (rows : UInt64) : Except DriverFault Database → Except DriverFault Outcome × Database
  | .ok new => (.ok (.changed rows), new)
  | .error e => (.error e, db)

/-- Carries out a command with stored values for its placeholders. -/
def perform : Sql.Command → List Value → Except DriverFault Outcome × Database
  | .createTable table key, _ => (.ok (.changed 0), db.createTable table key)
  | .addColumn table column type, _ => db.settle 0 (db.addColumn table ⟨column, type⟩)
  | .insert table columns, vs => db.settle 1 (db.insert table columns vs)
  | .select s, vs => ((db.select s vs).map .rows, db)
  | .listColumns, .text table :: _ => (.ok (.rows (db.columnRows table)), db)
  | .listColumns, _ => (.ok (.rows []), db)
  | .echo names, vs => (.ok (.rows [.ofList (names.zip vs)]), db)

def run (s : Statement) : Except DriverFault Outcome × Database :=
  match Sql.Command.read? db.dialect s.sql with
  | some c => db.perform c (s.values.map Value.stored)
  | none => (.error notUnderstood, db)

def answer (c : Call) (db : Database) : c.Reply × Database :=
  match c with
  | .execute s =>
    (((db.run s).1.map Outcome.ack).mapError DriverFault.toError, (db.run s).2)
  | .query s =>
    (((db.run s).1.map Outcome.records).mapError DriverFault.toError, (db.run s).2)

end Database

end SqlAdapter
