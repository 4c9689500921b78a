import SqlAdapter.CommandLine.Arguments
import SqlAdapter.Dialect

/-!
# Requests

What a command line asks for. General options come before the name of the command and its own options
after it.
-/

set_option autoImplicit false

namespace SqlAdapter.CommandLine

inductive Request where
  /-- Creates or extends the table of the model in a file. -/
  | configure (path : String)
  /-- Lists the columns of a table. -/
  | introspect (table : String)
  /-- Describes a table as a model. -/
  | derive (table : String)
  | insert (table record primaryKey : String)
  | select (table criteria : String)
  /-- Prints the statement that criteria compile to. -/
  | sql (table criteria : String)
  deriving DecidableEq, Repr

structure Invocation where
  database : Option String
  dialect : Dialect
  dryRun : Bool
  request : Request
  deriving DecidableEq, Repr

def anyText (_ : String) : Bool := true

def option (name : String) (letter : Char) : Switch := ⟨name, some letter, .value anyText⟩

def generalSwitches : List Switch :=
  [option "database" 'd',
   ⟨"dialect", none, .value fun s => (Dialect.ofName? s).isSome⟩,
   ⟨"max-connections", none, .value isCount⟩,
   ⟨"dry-run", none, .flag⟩,
   ⟨"verbose", some 'v', .flag⟩,
   ⟨"version", some 'V', .version⟩]

/-- A command: its own options, and the request that they make if none is missing. -/
structure Command where
  name : String
  switches : List Switch
  request? : Given → Option Request

def commands : List Command :=
  [⟨"configure", [⟨"model", some 'm', .value fun s => !s.isEmpty⟩], fun g =>
      (g.lookup "model").map .configure⟩,
   ⟨"introspect", [option "table" 't'], fun g => (g.lookup "table").map .introspect⟩,
   ⟨"derive", [option "table" 't'], fun g => (g.lookup "table").map .derive⟩,
   ⟨"insert", [option "table" 't', option "record" 'r', ⟨"primary-key", none, .value anyText⟩],
     fun g => do
      let table ← g.lookup "table"
      let record ← g.lookup "record"
      some (.insert table record ((g.lookup "primary-key").getD "_id"))⟩,
   ⟨"select", [option "table" 't', option "criteria" 'c'], fun g =>
      (g.lookup "table").map fun table =>
        .select table ((g.lookup "criteria").getD "\x7b\x7d")⟩,
   ⟨"sql", [option "table" 't', option "criteria" 'c'], fun g =>
      (g.lookup "table").map fun table =>
        .sql table ((g.lookup "criteria").getD "\x7b\x7d")⟩]

/-- Reads the arguments of a command line. -/
def parse (arguments : List String) : Except Stop Invocation := do
  match ← readOptions generalSwitches arguments [] with
  | (g, name :: rest) =>
    match commands.find? fun c => c.name = name with
    | none => .error .usage
    | some c =>
      match ← readOptions c.switches rest [] with
      | (h, []) =>
        match c.request? h with
        | some request =>
          .ok
            { database := g.lookup "database"
              dialect := ((g.lookup "dialect").bind Dialect.ofName?).getD .sqlite
              dryRun := (g.lookup "dry-run").isSome
              request := request }
        | none => .error .usage
      | _ => .error .usage
  | _ => .error .usage

/-- The database of an invocation: the one it names, else the one that the environment names, else one
in memory. -/
def Invocation.databaseName (i : Invocation) (environment : Option String) : String :=
  (i.database <|> environment).getD "sqlite::memory:"

end SqlAdapter.CommandLine
