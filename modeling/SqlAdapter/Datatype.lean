import SqlAdapter.Text.Ascii
import SqlAdapter.Text.Blank

/-!
# Datatypes

The datatypes that a field can declare, the column type each is stored in, and the datatype behind a
column type that a database reports. A reported type is known by its first word alone, which ends at
a space or an opening parenthesis: white space at the ends of the type, the case of its letters and
whatever follows the word do not matter.
-/

set_option autoImplicit false

namespace SqlAdapter

inductive Datatype where
  | string
  | identifier
  | boolean
  | number
  | date
  | time
  | datetime
  | object
  deriving DecidableEq, Repr

namespace Datatype

def all : List Datatype := [string, identifier, boolean, number, date, time, datetime, object]

def name : Datatype → String
  | string => "string"
  | identifier => "identifier"
  | boolean => "boolean"
  | number => "number"
  | date => "date"
  | time => "time"
  | datetime => "datetime"
  | object => "object"

def ofName? (s : String) : Option Datatype := all.find? fun d => d.name = s

/-- The datatype that a declaration means: its name in any case, or `objectid` for an identifier. -/
def parse? (s : String) : Option Datatype :=
  if Text.sameIgnoringCase s "objectid" then some identifier
  else all.find? fun d => Text.sameIgnoringCase s d.name

/-- Says that a declaration names no datatype. -/
def unknown (s : String) : String := "unknown datatype '" ++ s ++ "'"

def columnType : Datatype → String
  | string | identifier | object => "TEXT"
  | boolean => "TINYINT(1)"
  | number => "INT"
  | date => "DATE"
  | time | datetime => "DATETIME"

/-- The words that name column types, each with its datatype. -/
def reportedWords : List (String × Datatype) :=
  [("int", number), ("integer", number), ("bigint", number), ("smallint", number),
   ("mediumint", number), ("tinyint", number), ("real", number), ("double", number),
   ("float", number), ("decimal", number), ("numeric", number), ("text", string),
   ("varchar", string), ("char", string), ("clob", string), ("tinytext", string),
   ("mediumtext", string), ("longtext", string), ("boolean", boolean), ("bool", boolean),
   ("date", date), ("datetime", datetime), ("timestamp", datetime), ("time", time)]

/-- The first word of a reported type in lower case. -/
def reportedWord (reported : String) : List Char :=
  (Text.trim reported.toList).map Char.toLower |>.takeWhile fun c => c ≠ '(' && c ≠ ' '

/-- The datatype behind a reported column type, if it is one that can be declared. -/
def ofReported? (reported : String) : Option Datatype :=
  (reportedWords.find? fun w => w.1.toList = reportedWord reported).map Prod.snd

example : all.map (fun d => parse? d.name) = all.map some := by decide +kernel
example : ofReported? " VarChar(24)" = some string := by decide +kernel
example : ofReported? "unsigned int" = none := by decide +kernel

theorem ofName?_name (d : Datatype) : ofName? d.name = some d := by cases d <;> decide +kernel

end Datatype

end SqlAdapter
