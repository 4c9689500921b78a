import SqlAdapter.CommandLine.Request
import SqlAdapter.Database.Basic
import SqlAdapter.Datasource.Configuration
import SqlAdapter.Datasource.Rows
import SqlAdapter.Model.Json

/-!
# Running a command line

Every command but `sql` talks to the database, which is always spoken to in the dialect of SQLite. The
lines that answer a command are known when it ends; a command that fails has none. Files, records and
criteria are decoded before the first statement is sent.

The program also logs what it does, and the log goes to the same output, before the answer and after it. It
is no part of the answer and is not modelled.
-/

set_option autoImplicit false

namespace SqlAdapter.CommandLine

/-- The document in an argument. -/
def document (text : String) : Except Error Json :=
  match Json.ofString? text with
  | some j => .ok j
  | none => .error .decoding

def criteria (text : String) : Except Error Criteria := do
  let j ← document text
  (Criteria.ofDocument j).mapError Error.compile

def record (text : String) : Except Error Record := do
  let j ← document text
  (Record.ofDocument j).mapError Error.compile

/-- The text filled up with blanks to a width. -/
def padded (width : Nat) (s : String) : String :=
  s ++ String.ofList (List.replicate (width - s.length) ' ')

def reportLines (r : Report) : List String :=
  r.statements.map (· ++ ";") ++ r.derived.map fun f => f.1 ++ ": " ++ f.2.name

def columnLine (c : Column) : String := padded 30 c.name ++ " " ++ c.type

def recordLine (r : Record) : String := r.toJson.compact

/-- A statement and, if there are any, its values. -/
def statementLines (s : Statement) : List String :=
  s.sql :: if s.values.isEmpty then [] else
    ["-- values: " ++ (Json.array (s.values.map Value.toJson)).compact]

/-- The lines that answer a request. -/
def answer (files : String → Option ByteArray) (i : Invocation) : Dialogue (Except Error (List String)) :=
  let ds : Datasource := ⟨.sqlite, i.dryRun⟩
  match i.request with
  | .configure path =>
    match Model.load (files path) with
    | .ok m => do
      let (report, _) ← ds.configureTable m
      pure (report.map reportLines)
    | .error e => pure (.error e)
  | .introspect table => ExceptT.run do
    let live ← ds.tableInfo table
    pure (live.columns.map columnLine)
  | .derive table => do
    let (derived, m) ← ds.loadExternalSchema { table := table, isExternal := true }
    pure (derived.map fun _ => [m.toJson.pretty])
  | .insert table text primaryKey =>
    match record text with
    | .ok r => do
      let (row, _) ← ds.insertRecord { table := table, primaryKey := primaryKey } r
      pure (row.map fun r => [recordLine r])
    | .error e => pure (.error e)
  | .select table text => ExceptT.run do
    let c ← Attempt.ofExcept (criteria text)
    let rows ← ds.selectRows table c
    pure (rows.map recordLine)
  | .sql table text =>
    pure do
      let c ← criteria text
      let s ← Datasource.compileSelect { ds with dialect := i.dialect } table c
      pure (statementLines s)

/-- How a run ends: with the lines that answer the request, or with none. -/
inductive Outcome where
  | printed (lines : List String)
  | usage
  | failed (e : Error)

def version : String := "oxide-datasource 0.1.0"

/-- How arguments that make no request end. -/
def Outcome.ofStop : Stop → Outcome
  | .usage => usage
  | .version => printed [CommandLine.version]

def Outcome.exitCode : Outcome → Nat
  | printed _ => 0
  | failed _ => 1
  | usage => 2

/-- The answer of a run as it stands on the output, between whatever the log writes there. -/
def Outcome.output : Outcome → String
  | printed lines => String.join (lines.map (· ++ "\n"))
  | failed _ | usage => ""

/-- The first line of a text. A line ends at a line feed, or at a carriage return and a line feed. -/
def firstLine : List Char → List Char
  | [] | '\n' :: _ | '\r' :: '\n' :: _ => []
  | c :: s => c :: firstLine s

/-- The first line that reports an error. Where a text could not be decoded the message says no more. -/
def reportedLine : Error → String
  | .decoding => Error.decoding.message
  | e => String.ofList (firstLine ("Error: " ++ e.message ++ "\n").toList)

/-- Answers a request from a database. -/
def Invocation.run (i : Invocation) (files : String → Option ByteArray) (db : Database) :
    Outcome × Database :=
  match (answer files i).run Database.answer db with
  | (.ok lines, db) => (.printed lines, db)
  | (.error e, db) => (.failed e, db)

end SqlAdapter.CommandLine
