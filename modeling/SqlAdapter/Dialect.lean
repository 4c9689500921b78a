import SqlAdapter.Datatype
import SqlAdapter.Text.Quoted

/-!
# Dialects

How a database spells what the statements need: the quote character of names, the page that skips
rows without a limit, the query that lists the columns of a table, and the datatype behind a reported
column type.
-/

set_option autoImplicit false

namespace SqlAdapter

inductive Dialect where
  /-- Standard SQL. -/
  | generic
  | mysql
  | sqlite
  deriving DecidableEq, Repr

namespace Dialect

def all : List Dialect := [generic, mysql, sqlite]

def name : Dialect → String
  | generic => "generic"
  | mysql => "mysql"
  | sqlite => "sqlite"

/-- The character around a quoted name. In SQLite a name in double quotes that matches no column is
read as a string, so names are never written in them. -/
def quote : Dialect → Char
  | generic => '"'
  | mysql | sqlite => '\x60'

/-- The limit that stands for no limit where a limit must precede an offset. -/
def unbounded? : Dialect → Option Int
  | generic => none
  | mysql => some 18446744073709551615
  | sqlite => some (-1)

/-- The type of the primary key of a created table. -/
def keyType (_ : Dialect) : String := "VARCHAR(24)"

/-- The text of the query that lists the columns of a table: a name and a type in each row, in the
order of the table. The table is its only value. -/
def columnsQuery : Dialect → String
  | generic => "SELECT column_name AS name, data_type AS type FROM information_schema.columns " ++
      "WHERE table_schema = CURRENT_SCHEMA AND table_name = ? ORDER BY ordinal_position"
  | mysql => "SELECT COLUMN_NAME AS name, COLUMN_TYPE AS type FROM information_schema.COLUMNS " ++
      "WHERE TABLE_SCHEMA = DATABASE() AND TABLE_NAME = ? ORDER BY ORDINAL_POSITION"
  | sqlite => "SELECT name, type FROM pragma_table_info(?) ORDER BY cid"

def ofName? (s : String) : Option Dialect := all.find? fun d => d.name = s

/-- A name between the quotes of the dialect. -/
def quoteName (d : Dialect) (name : String) : String :=
  String.ofList (Text.Quoted.encode d.quote name.toList)

/-- The datatype behind a column type that a database of the dialect reports. MySQL reports a
boolean as a one-digit integer. -/
def reverseType? (d : Dialect) (reported : String) : Option Datatype :=
  if d = mysql ∧ (Text.trim reported.toList).map Char.toLower = "tinyint(1)".toList then
    some .boolean
  else Datatype.ofReported? reported

@[simp] theorem toList_quoteName (d : Dialect) (n : String) :
    (d.quoteName n).toList = Text.Quoted.encode d.quote n.toList := by
  simp [quoteName]

end Dialect

end SqlAdapter
