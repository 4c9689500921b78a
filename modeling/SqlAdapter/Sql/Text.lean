import SqlAdapter.Dialect
import SqlAdapter.Sql.Command
import SqlAdapter.Text.Numeral

/-!
# The text of a command

Names are quoted, keywords are in capitals, and every value is a question mark.
-/

set_option autoImplicit false

namespace SqlAdapter

/-- The texts joined by a comma and a blank. -/
def commaSeparated (l : List (List Char)) : List Char := [',', ' '].intercalate l

def Direction.keyword : Direction → String
  | .ascending => "ASC"
  | .descending => "DESC"

def Comparison.symbol : Comparison → String
  | .eq => "="
  | .ne => "!="
  | .gt => ">"
  | .gte => ">="
  | .lt => "<"
  | .lte => "<="

namespace Sql

def marks (n : Nat) : List Char := commaSeparated (List.replicate n ['?'])

/-- What follows the column in the text of a test. -/
def Test.rest : Test → List Char
  | compare _ op => " ".toList ++ op.symbol.toList ++ " ?".toList
  | isNull _ => " IS NULL".toList
  | isNotNull _ => " IS NOT NULL".toList
  | isIn _ n => " IN (".toList ++ marks n ++ [')']
  | notIn _ n => " NOT IN (".toList ++ marks n ++ [')']
  | like _ => " LIKE ?".toList
  | between _ => " BETWEEN ? AND ?".toList
  | constant true => "1 = 1".toList
  | constant false => "1 = 0".toList

def quoted (d : Dialect) (name : String) : List Char := Text.Quoted.encode d.quote name.toList

def Test.chars (d : Dialect) (t : Test) : List Char :=
  match t.column? with
  | some c => quoted d c ++ t.rest
  | none => t.rest

def conditionChars (d : Dialect) : Condition → List Char
  | .atom t => t.chars d
  | .and l r => '(' :: conditionChars d l ++ ") AND (".toList ++ conditionChars d r ++ [')']
  | .or l r => '(' :: conditionChars d l ++ ") OR (".toList ++ conditionChars d r ++ [')']
  | .not f => "NOT (".toList ++ conditionChars d f ++ [')']

def orderChars (d : Dialect) (o : List (String × Direction)) : List Char :=
  commaSeparated (o.map fun p => quoted d p.1 ++ ' ' :: p.2.keyword.toList)

def Select.chars (d : Dialect) (s : Select) : List Char :=
  "SELECT * FROM ".toList ++ quoted d s.table
    ++ (match s.condition with
      | some c => " WHERE ".toList ++ conditionChars d c
      | none => [])
    ++ (match s.order with
      | [] => []
      | o => " ORDER BY ".toList ++ orderChars d o)
    ++ (match s.limit with
      | some n => " LIMIT ".toList ++ Text.integer n
      | none => [])
    ++ (match s.offset with
      | some n => " OFFSET ".toList ++ Text.natural n
      | none => [])

def Command.chars (d : Dialect) : Command → List Char
  | createTable table key =>
    "CREATE TABLE IF NOT EXISTS ".toList ++ quoted d table ++ " (".toList ++ quoted d key ++ [' ']
      ++ d.keyType.toList ++ " PRIMARY KEY)".toList
  | addColumn table column type =>
    "ALTER TABLE ".toList ++ quoted d table ++ " ADD COLUMN ".toList ++ quoted d column ++ [' ']
      ++ type.toList
  | listColumns => d.columnsQuery.toList
  | insert table columns =>
    "INSERT INTO ".toList ++ quoted d table ++ " (".toList
      ++ commaSeparated (columns.map (quoted d)) ++ ") VALUES (".toList ++ marks columns.length
      ++ [')']
  | select s => s.chars d
  | echo names => "SELECT ".toList ++ commaSeparated (names.map fun n => "? AS ".toList ++ quoted d n)

/-- The text of a command in a dialect. -/
def Command.text (d : Dialect) (c : Command) : String := String.ofList (c.chars d)

@[simp] theorem Command.toList_text (d : Dialect) (c : Command) : (c.text d).toList = c.chars d := by
  simp [Command.text]

end Sql

end SqlAdapter
