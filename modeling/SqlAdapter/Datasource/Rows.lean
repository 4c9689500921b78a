import SqlAdapter.Datasource.Basic
import SqlAdapter.Model.Basic

/-!
# Reading and writing rows

Criteria are compiled before anything is sent. An inserted record is answered with the row that was
stored: the database echoes it, or it is read back by the primary key that the record gives.
-/

set_option autoImplicit false

namespace SqlAdapter.Datasource

variable (ds : Datasource)

def compileSelect (table : String) (c : Criteria) : Except Error Statement :=
  (Statement.select ds.dialect table c).mapError Error.compile

def queryAll (s : Statement) : Attempt (List Record) := Attempt.query s

def selectRows (table : String) (c : Criteria) : Attempt (List Record) := do
  let s ← Attempt.ofExcept (ds.compileSelect table c)
  queryAll s

/-- The first echoed row, if it has the primary key. -/
def echoed? (primaryKey : String) : Ack → Option Record
  | .rows (r :: _) => if r.contains primaryKey then some r else none
  | _ => none

/-- Reads the row of a record back by its primary key. -/
def readBack (m : Model) (r : Record) : Attempt Record := do
  match r.get? m.primaryKey with
  | none =>
    throw (.driverInconsistency m.table
      ("record has no '" ++ m.primaryKey ++ "' value to read the row back"))
  | some key =>
    match ← Attempt.query (Statement.lookup ds.dialect m.table m.primaryKey key) with
    | row :: _ => pure row
    | [] => throw (.driverInconsistency m.table "inserted row not found by primary key")

/-- Inserts a record and gives the stored row. Cached results are stale as soon as the database has
acknowledged the record, whether or not the row can be read back. -/
def insertRecord (m : Model) (r : Record) : Dialogue (Except Error Record × Model) :=
  match Statement.insert ds.dialect m.table r with
  | .error e => .done (.error (.compile e), m)
  | .ok s =>
    .call (.execute s) fun
      | .error e => .done (.error e, m)
      | .ok ack =>
        match echoed? m.primaryKey ack with
        | some row => .done (.ok row, m.invalidate)
        | none => do
          let row ← (ds.readBack m r).run
          pure (row, m.invalidate)

end SqlAdapter.Datasource
