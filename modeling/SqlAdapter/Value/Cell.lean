import SqlAdapter.Value.Basic

/-!
# Storage classes

A SQLite database keeps a value in one of five storage classes. A value is bound by its kind and read back
by the class that the database reports.
-/

set_option autoImplicit false

namespace SqlAdapter

/-- A value in a database, in its storage class. -/
inductive Cell where
  | null
  | integer (n : Int64)
  | real (x : Binary64)
  | text (s : String)
  | blob (bytes : List UInt8)
  deriving DecidableEq

/-- What is bound for a value. There is no class for Booleans. -/
def Value.cell : Value → Cell
  | null => .null
  | bool b => .integer (if b then 1 else 0)
  | int n => .integer n
  | float x => .real x
  | text s => .text s
  | blob bytes => .blob bytes

namespace Cell

/-- What the database makes of a bound cell: there is no NaN among its numbers. -/
def kept : Cell → Cell
  | real x => if x.isNaN then null else real x
  | c => c

/-- The name by which the class is reported. -/
def className : Cell → String
  | null => "NULL"
  | integer _ => "INTEGER"
  | real _ => "REAL"
  | text _ => "TEXT"
  | blob _ => "BLOB"

def integer? : Cell → Option Int64
  | integer n => some n
  | _ => none

def real? : Cell → Option Binary64
  | real x => some x
  | _ => none

def text? : Cell → Option String
  | text s => some s
  | _ => none

def blob? : Cell → Option (List UInt8)
  | blob bytes => some bytes
  | _ => none

/-- Reads a cell by the name of its class; a class of another name is read as text. -/
def read? (c : Cell) : Option Value :=
  if c = null then some .null
  else
    match c.className with
    | "INTEGER" | "BOOLEAN" => c.integer?.map .int
    | "REAL" => c.real?.map .float
    | "BLOB" => c.blob?.map .blob
    | _ => c.text?.map .text

end Cell

namespace Value

/-- The value as a database keeps it: bound as a cell, kept and read back. -/
def stored (v : Value) : Value := .ofOption v.cell.kept.read?

@[simp] theorem stored_null : null.stored = null := rfl

@[simp] theorem stored_bool (b : Bool) : (bool b).stored = int (if b then 1 else 0) := rfl

@[simp] theorem stored_int (n : Int64) : (int n).stored = int n := rfl

@[simp] theorem stored_float (x : Binary64) :
    (float x).stored = if x.isNaN then null else float x := by
  cases h : x.isNaN <;> simp [stored, cell, Cell.kept, h] <;> rfl

@[simp] theorem stored_text (s : String) : (text s).stored = text s := rfl

@[simp] theorem stored_blob (bytes : List UInt8) : (blob bytes).stored = blob bytes := rfl

@[simp] theorem stored_stored (v : Value) : v.stored.stored = v.stored := by
  cases v with
  | float x => by_cases h : x.isNaN <;> simp [h]
  | _ => rfl

end Value

end SqlAdapter
