import SqlAdapter.Text.Ascii
import SqlAdapter.Text.Blank
import SqlAdapter.Text.Quoted
import SqlAdapter.Text.Numeral
import SqlAdapter.Binary64.Basic
import SqlAdapter.Binary64.Nearest
import SqlAdapter.Binary64.Decimal
import SqlAdapter.Binary64.Shortest
import SqlAdapter.Keyed
import SqlAdapter.Json.Basic
import SqlAdapter.Json.Printer
import SqlAdapter.Json.Written
import SqlAdapter.Json.Reader
import SqlAdapter.Value.Basic
import SqlAdapter.Value.Json
import SqlAdapter.Record
import SqlAdapter.Error
import SqlAdapter.Datatype
import SqlAdapter.Dialect
import SqlAdapter.Truth
import SqlAdapter.Formula
import SqlAdapter.Sql.Command
import SqlAdapter.Sql.Text
import SqlAdapter.Sql.Reader
import SqlAdapter.Filter.Basic
import SqlAdapter.Filter.Document
import SqlAdapter.SortSpec
import SqlAdapter.Criteria
import SqlAdapter.Statement
import SqlAdapter.Json.Members
import SqlAdapter.Schema.Basic
import SqlAdapter.Schema.Json
import SqlAdapter.Model.Basic
import SqlAdapter.Model.Json
import SqlAdapter.Schema.Live
import SqlAdapter.Dialogue
import SqlAdapter.Datasource.Basic
import SqlAdapter.Datasource.Configuration
import SqlAdapter.Datasource.Rows
import SqlAdapter.Script
import SqlAdapter.Datatype.Json
import SqlAdapter.Text.Pattern
import SqlAdapter.Value.Cell
import SqlAdapter.Value.Order
import SqlAdapter.Sql.Evaluation
import SqlAdapter.Database.Table
import SqlAdapter.Database.Basic
import SqlAdapter.CommandLine.Arguments
import SqlAdapter.CommandLine.Request
import SqlAdapter.CommandLine.Run
import SqlAdapter.Main
import SqlAdapter.Proofs.Sql.Reading
import SqlAdapter.Proofs.Sql.Scan
import SqlAdapter.Proofs.Sql.Rows
import SqlAdapter.Proofs.Transcript
import SqlAdapter.Proofs.Selection
import SqlAdapter.Proofs.Sql.Names
import SqlAdapter.Proofs.Operation
import SqlAdapter.Proofs.Configuration
import SqlAdapter.Proofs.Reconciliation
import SqlAdapter.Proofs.Database.Columns
import SqlAdapter.Proofs.Database.Affinity
import SqlAdapter.Proofs.Database.Servers
import SqlAdapter.Proofs.Database.Configuring
import SqlAdapter.Proofs.Database.Acceptance
import SqlAdapter.Proofs.Interleaving
import SqlAdapter.Proofs.Concurrency.Convergence
import SqlAdapter.Proofs.Database.Rehearsal
import SqlAdapter.Proofs.Database.Settled
import SqlAdapter.Proofs.Database.Retries
import SqlAdapter.Proofs.Database.KeyedTables
import SqlAdapter.Proofs.Value.Equality
import SqlAdapter.Proofs.Database.ReadBack
import SqlAdapter.Proofs.Database.Collisions
import SqlAdapter.Proofs.Declarations
import SqlAdapter.Proofs.Database.Repetitions
import SqlAdapter.Proofs.Filter.Meaning
import SqlAdapter.Proofs.Insertion
import SqlAdapter.Proofs.Planning
import SqlAdapter.Proofs.Database.Growth
import SqlAdapter.Proofs.Database.Additions
import SqlAdapter.Proofs.Filter.Grammar
import SqlAdapter.Proofs.Placeholders
import SqlAdapter.Proofs.Filter.Lists
import SqlAdapter.Proofs.Paging
import SqlAdapter.Proofs.Derivation
import SqlAdapter.Proofs.Datatype.Reported
import SqlAdapter.Proofs.Database.Derivation
import SqlAdapter.Proofs.Value.Document
import SqlAdapter.Proofs.Text.Bytes
import SqlAdapter.Proofs.Assignments
import SqlAdapter.Proofs.Text.Delimited
import SqlAdapter.Proofs.Filter.LongForm
import SqlAdapter.Proofs.Generation
import SqlAdapter.Proofs.Schema.History
import SqlAdapter.Proofs.Json.Spelling
import SqlAdapter.Proofs.ModelFiles
import SqlAdapter.Proofs.Json.Respelling
import SqlAdapter.Proofs.ModelSpellings
import SqlAdapter.Proofs.Binary64.PowersOfTwo
import SqlAdapter.Proofs.Sorting
import SqlAdapter.Proofs.Criteria.Grammar
import SqlAdapter.Proofs.Introspection
import SqlAdapter.Proofs.Criteria.Building
import SqlAdapter.Proofs.Value.Cells
import SqlAdapter.Proofs.Database.Echo
