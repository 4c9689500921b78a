import SqlAdapter.Formula

/-!
# Commands

What the statements of the library say. A command names tables and columns and leaves its values open:
the text of the command has a placeholder for each, and the values travel beside it in the same order.
-/

set_option autoImplicit false

namespace SqlAdapter

inductive Direction where
  | ascending
  | descending
  deriving DecidableEq, Repr

inductive Comparison where
  | eq
  | ne
  | gt
  | gte
  | lt
  | lte
  deriving DecidableEq, Repr

namespace Sql

/-- A test of one column against values that are left open. -/
inductive Test where
  | compare (column : String) (op : Comparison)
  | isNull (column : String)
  | isNotNull (column : String)
  | isIn (column : String) (count : Nat)
  | notIn (column : String) (count : Nat)
  | like (column : String)
  | between (column : String)
  /-- A test that every row passes, or none. -/
  | constant (b : Bool)
  deriving DecidableEq, Repr

/-- How many values the test compares with. -/
def Test.arity : Test → Nat
  | compare .. | like _ => 1
  | between _ => 2
  | isIn _ n | notIn _ n => n
  | isNull _ | isNotNull _ | constant _ => 0

def Test.column? : Test → Option String
  | compare c _ | isNull c | isNotNull c | isIn c _ | notIn c _ | like c | between c => some c
  | constant _ => none

abbrev Condition := Formula Test

/-- The columns of a condition, from left to right. -/
def columnsOf (c : Condition) : List String := c.atoms.filterMap Test.column?

/-- How many values a condition compares with. -/
def arityOf : Condition → Nat
  | .atom t => t.arity
  | .and l r | .or l r => arityOf l + arityOf r
  | .not f => arityOf f

/-- The rows of one table: those that pass the condition, in the given order, after dropping `offset`
of them and at most `limit`. -/
structure Select where
  table : String
  condition : Option Condition
  order : List (String × Direction)
  limit : Option Int
  offset : Option Nat
  deriving DecidableEq

inductive Command where
  /-- Creates a table with a key column of text and no other, if there is no such table. -/
  | createTable (table key : String)
  | addColumn (table column type : String)
  /-- Lists the columns of the table that the only value names. -/
  | listColumns
  | insert (table : String) (columns : List String)
  | select (s : Select)
  /-- One row of the values themselves under the given names. -/
  | echo (names : List String)
  deriving DecidableEq

end Sql

end SqlAdapter
