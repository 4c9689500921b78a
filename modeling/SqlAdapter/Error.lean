/-!
# Errors

What can go wrong between a request and its answer, each with its cause, and the wording of each in
one place.
-/

set_option autoImplicit false

namespace SqlAdapter

/-- Why a request could not be turned into a statement. -/
inductive CompileError where
  /-- A sort entry is no pair of a field and a direction. -/
  | malformedSort (entry : String)
  | unsupportedOperator (operator : String)
  | invalidFilter (detail : String)
  | invalidRecord (detail : String)
  | emptyRecord (table : String)
  deriving DecidableEq, Repr

def CompileError.message : CompileError → String
  | malformedSort entry => "Malformed sort entry: " ++ entry
  | unsupportedOperator operator => "Unsupported filter operator '" ++ operator ++ "'"
  | invalidFilter detail => "Invalid filter: " ++ detail
  | invalidRecord detail => "Invalid record: " ++ detail
  | emptyRecord table => "Cannot insert an empty record into '" ++ table ++ "'"

inductive Error where
  | compile (e : CompileError)
  /-- The statement could not be carried to the database at all. -/
  | connectivity (detail : String)
  /-- The database refused the statement. -/
  | database (detail : String)
  /-- The database answered, but not with what the statement must give. -/
  | driverInconsistency (table detail : String)
  /-- A declared field names a datatype that has no column type. -/
  | unknownDatatype (table field datatype : String)
  /-- A statement that changes the schema failed. -/
  | ddl (table statement : String) (source : Error)
  | io (detail : String)
  /-- A text does not decode to what is asked for. -/
  | decoding
  deriving DecidableEq, Repr

namespace Error

def message : Error → String
  | compile e => e.message
  | connectivity detail => "Connectivity error: " ++ detail
  | database detail => "Database error: " ++ detail
  | driverInconsistency table detail =>
    "Driver inconsistency on table '" ++ table ++ "': " ++ detail
  | unknownDatatype table field datatype =>
    "Unknown datatype '" ++ datatype ++ "' for field '" ++ field ++ "' on table '" ++ table ++ "'"
  | ddl table statement source =>
    "DDL failed on table '" ++ table ++ "' (" ++ statement ++ "): " ++ source.message
  | io detail => "IO error: " ++ detail
  | decoding => "invalid JSON"

/-- Whether the error was raised by reconciling a schema. -/
def isSchema : Error → Bool
  | unknownDatatype .. | ddl .. => true
  | _ => false

end Error

/-- A failure as the driver of a database reports it. -/
inductive DriverFault where
  | poolTimedOut
  | poolClosed
  | workerCrashed
  | io (detail : String)
  | tls (detail : String)
  | rowNotFound
  | protocol (detail : String)
  | configuration (detail : String)
  | columnNotFound (column : String)
  | decode (detail : String)
  /-- The database itself reports an error, with its result code. -/
  | reported (code : Nat) (detail : String)
  deriving DecidableEq, Repr

namespace DriverFault

def message : DriverFault → String
  | poolTimedOut => "pool timed out while waiting for an open connection"
  | poolClosed => "attempted to acquire a connection on a closed pool"
  | workerCrashed => "attempted to communicate with a crashed background worker"
  | io detail => "error communicating with database: " ++ detail
  | tls detail => "error occurred while attempting to establish a TLS connection: " ++ detail
  | rowNotFound =>
    "no rows returned by a query that expected to return at least one row"
  | protocol detail => "encountered unexpected or invalid data: " ++ detail
  | configuration detail => "error with configuration: " ++ detail
  | columnNotFound column => "no column found for name: " ++ column
  | decode detail => "error occurred while decoding: " ++ detail
  | reported code detail =>
    "error returned from database: (code: " ++ toString code ++ ") " ++ detail

/-- Whether the statement never reached the database. -/
def isConnectivity : DriverFault → Bool
  | poolTimedOut | poolClosed | workerCrashed | io _ | tls _ => true
  | _ => false

/-- Sorts a driver's failure into connectivity failures and refused statements. -/
def toError (f : DriverFault) : Error :=
  if f.isConnectivity then .connectivity f.message else .database f.message

end DriverFault

end SqlAdapter
