import Tabula.Address.Basic
import Tabula.Address.Host
import Tabula.Calendar.Date
import Tabula.Calendar.Instant
import Tabula.Database.Call
import Tabula.Database.Config
import Tabula.Database.Name
import Tabula.Database.Scripted
import Tabula.Dialogue
import Tabula.Digest
import Tabula.Error
import Tabula.Field.Basic
import Tabula.Field.Kind
import Tabula.Field.Storage
import Tabula.Filter.Basic
import Tabula.Filter.Lookup
import Tabula.Filter.Path
import Tabula.Instance.Basic
import Tabula.Instance.Store
import Tabula.Json.Basic
import Tabula.Json.Reader
import Tabula.Keyed
import Tabula.Mapper
import Tabula.Model.Basic
import Tabula.Model.Draft
import Tabula.Number.Decimal
import Tabula.Number.Double
import Tabula.Number.Shortest
import Tabula.Postgres.Binary
import Tabula.Postgres.ColumnType
import Tabula.Postgres.Decode
import Tabula.Postgres.Engine.Basic
import Tabula.Postgres.Engine.Lifetime
import Tabula.Postgres.Engine.Operations
import Tabula.Postgres.Engine.Pool
import Tabula.Postgres.Engine.Statement
import Tabula.Postgres.Engine.Transaction
import Tabula.Postgres.Fault
import Tabula.Postgres.Fleet
import Tabula.Postgres.Numeric
import Tabula.Postgres.Parameter
import Tabula.Postgres.Wire
import Tabula.Proofs.Database.StoredRow
import Tabula.Proofs.Database.Table
import Tabula.Proofs.Dialogue
import Tabula.Proofs.Field.Conversion
import Tabula.Proofs.Field.Storage
import Tabula.Proofs.Instance.Bookkeeping
import Tabula.Proofs.Instance.Copies
import Tabula.Proofs.Instance.Creation
import Tabula.Proofs.Instance.FailedSave
import Tabula.Proofs.Instance.InStep
import Tabula.Proofs.Instance.Loading
import Tabula.Proofs.Instance.OptimisticLock
import Tabula.Proofs.Instance.ReadBack
import Tabula.Proofs.Instance.Results
import Tabula.Proofs.Instance.Saving
import Tabula.Proofs.Keyed
import Tabula.Proofs.Mapper.RowStatements
import Tabula.Proofs.Mapper.Texts
import Tabula.Proofs.Model.Built
import Tabula.Proofs.Model.WellFormed
import Tabula.Proofs.Outcome
import Tabula.Proofs.Postgres.CleanPool
import Tabula.Proofs.Postgres.Custody
import Tabula.Proofs.Postgres.Operations
import Tabula.Proofs.Postgres.Reserved
import Tabula.Proofs.Postgres.Scope
import Tabula.Proofs.Postgres.Session
import Tabula.Proofs.Postgres.Statement
import Tabula.Proofs.Postgres.Watch
import Tabula.Proofs.Postgres.Work
import Tabula.Proofs.Query.Binding
import Tabula.Proofs.Query.BulkWrite
import Tabula.Proofs.Query.Conditions
import Tabula.Proofs.Query.Exclusion
import Tabula.Proofs.Query.Meaning
import Tabula.Proofs.Query.Nodes
import Tabula.Proofs.Query.Parameters
import Tabula.Proofs.Query.Renumbering
import Tabula.Proofs.Query.Skeleton
import Tabula.Proofs.Query.ValueFree
import Tabula.Proofs.Registry
import Tabula.Proofs.Registry.Typed
import Tabula.Proofs.Sql.FirstToken
import Tabula.Proofs.Sql.Lexeme
import Tabula.Proofs.Sql.Placeholders
import Tabula.Proofs.Sql.Reading
import Tabula.Proofs.Sql.RowLayout
import Tabula.Proofs.Sql.RowStatement
import Tabula.Proofs.Sql.Token
import Tabula.Proofs.Sql.Truth
import Tabula.Proofs.Sql.Written
import Tabula.Proofs.Transaction
import Tabula.Proofs.Transcript
import Tabula.Proofs.Value.Equality
import Tabula.Query.Basic
import Tabula.Query.Binding
import Tabula.Query.Compile
import Tabula.Query.Manager
import Tabula.Query.Selection
import Tabula.Registry
import Tabula.Row
import Tabula.Schema.Definition
import Tabula.Schema.Name
import Tabula.Settings.Basic
import Tabula.Settings.File
import Tabula.Settings.LogFilter
import Tabula.Sql.Condition
import Tabula.Sql.Pattern
import Tabula.Sql.Quoted
import Tabula.Sql.Statement
import Tabula.Startup
import Tabula.Text.Blank
import Tabula.Text.Case
import Tabula.Text.Digits
import Tabula.Text.Escaped
import Tabula.Text.Graphic
import Tabula.Text.Hex
import Tabula.Text.Parts
import Tabula.Text.Percent
import Tabula.Text.Word
import Tabula.Toml.Basic
import Tabula.Toml.Reader
import Tabula.Transaction
import Tabula.Uuid
import Tabula.Value.Basic
import Tabula.Value.Inspect
import Tabula.Value.Tagged
import Tabula.Value.Typed
import Tabula.Proofs.Model.WellFormed
import Tabula.Proofs.Calendar.Range
import Tabula.Proofs.Postgres.Encoding
import Tabula.Proofs.Sql.Typing
import Tabula.Proofs.Query.Typing
import Tabula.Proofs.Mapper.Bindable
import Tabula.Proofs.Schema.TableText
import Tabula.Proofs.Model.Inheritance
import Tabula.Proofs.Schema.PrimaryKey
import Tabula.Proofs.Model.Names
import Tabula.Proofs.Model.KeyDeclarations
import Tabula.Proofs.Model.Catalog
import Tabula.Proofs.Postgres.InOrder
import Tabula.Proofs.Postgres.Slot
import Tabula.Proofs.Postgres.Fate
import Tabula.Proofs.Registry.Lifecycle
import Tabula.Proofs.Startup
import Tabula.Proofs.Postgres.RoundTrip
import Tabula.Proofs.Postgres.Routing
import Tabula.Proofs.Filter.Keys
import Tabula.Proofs.Filter.Opposites
import Tabula.Proofs.Filter.Selection
import Tabula.Proofs.Filter.TextLookups
import Tabula.Proofs.Filter.WholeDocuments
import Tabula.Proofs.Schema.Script
import Tabula.Proofs.Query.Conjunction
import Tabula.Proofs.Instance.VersionStep
import Tabula.Proofs.Instance.RowKey
import Tabula.Proofs.Database.RowCount
import Tabula.Proofs.Query.SingleResult
import Tabula.Proofs.Query.Counting
import Tabula.Proofs.Instance.BulkCreation
import Tabula.Proofs.Postgres.Batch
import Tabula.Proofs.Database.Options
import Tabula.Proofs.Instance.OwnValues
import Tabula.Proofs.Query.GetOrCreate
import Tabula.Proofs.Instance.Equality
import Tabula.Proofs.Filter.Numbers
import Tabula.Proofs.Query.RowByKey
import Tabula.Proofs.Schema.DistinctNames
import Tabula.Proofs.Schema.Boundaries
import Tabula.Proofs.Settings.Overrides
import Tabula.Proofs.Query.DistinctOrder
import Tabula.Proofs.Settings.Grammar
