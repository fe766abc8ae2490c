import FluentSql.Calendar.Date
import FluentSql.Calendar.Moment
import FluentSql.Calendar.Reader
import FluentSql.Client
import FluentSql.Config.Basic
import FluentSql.Config.Json
import FluentSql.Connection.Any
import FluentSql.Connection.Embedded
import FluentSql.Connection.Event
import FluentSql.Connection.Manager
import FluentSql.Connection.Mock
import FluentSql.Connection.Pooled
import FluentSql.Error
import FluentSql.Json.Basic
import FluentSql.Json.Reader
import FluentSql.Json.Shape
import FluentSql.MySql.Codec
import FluentSql.MySql.Column
import FluentSql.MySql.Driver
import FluentSql.Number.Binary
import FluentSql.Number.Fixed
import FluentSql.Number.Integer
import FluentSql.Number.Octets
import FluentSql.Number.Shortest
import FluentSql.Postgres.Codec
import FluentSql.Postgres.DataType
import FluentSql.Postgres.Driver
import FluentSql.Postgres.Numeric
import FluentSql.Proofs.Builder.Clauses
import FluentSql.Proofs.Builder.Columns
import FluentSql.Proofs.Builder.Ignored
import FluentSql.Proofs.Builder.Methods
import FluentSql.Proofs.Builder.Records
import FluentSql.Proofs.Builder.Restart
import FluentSql.Proofs.Calendar.Days
import FluentSql.Proofs.Calendar.Instants
import FluentSql.Proofs.Calendar.Text
import FluentSql.Proofs.Client.Answers
import FluentSql.Proofs.Client.Body
import FluentSql.Proofs.Client.Closing
import FluentSql.Proofs.Client.Execution
import FluentSql.Proofs.Client.Lists
import FluentSql.Proofs.Client.Maps
import FluentSql.Proofs.Client.Parameters
import FluentSql.Proofs.Client.Rows
import FluentSql.Proofs.Client.Transaction
import FluentSql.Proofs.Config.Address
import FluentSql.Proofs.Config.Fields
import FluentSql.Proofs.Connection.Abreast
import FluentSql.Proofs.Connection.Failing
import FluentSql.Proofs.Connection.Flag
import FluentSql.Proofs.Connection.Fleet
import FluentSql.Proofs.Connection.Handles
import FluentSql.Proofs.Connection.Lawful
import FluentSql.Proofs.Connection.Phase
import FluentSql.Proofs.Connection.Recorded
import FluentSql.Proofs.Connection.Sharing
import FluentSql.Proofs.Connection.Told
import FluentSql.Proofs.MySql.Integers
import FluentSql.Proofs.Number.Numeral
import FluentSql.Proofs.Number.Octets
import FluentSql.Proofs.Postgres.Canonical
import FluentSql.Proofs.Postgres.Cells
import FluentSql.Proofs.Postgres.Tags
import FluentSql.Proofs.Query.Accepted
import FluentSql.Proofs.Query.Clauses
import FluentSql.Proofs.Query.Determined
import FluentSql.Proofs.Query.Groups
import FluentSql.Proofs.Query.Identifiers
import FluentSql.Proofs.Query.Leading
import FluentSql.Proofs.Query.Legible
import FluentSql.Proofs.Query.Normal
import FluentSql.Proofs.Query.Placeholders
import FluentSql.Proofs.Query.Refused
import FluentSql.Proofs.Query.Rendering
import FluentSql.Proofs.Query.Scan
import FluentSql.Proofs.Query.Separators
import FluentSql.Proofs.Query.Shape
import FluentSql.Proofs.Query.Spelling
import FluentSql.Proofs.Query.Strip
import FluentSql.Proofs.Query.Symbols
import FluentSql.Proofs.Query.WellFormed
import FluentSql.Proofs.Query.Writer
import FluentSql.Proofs.Record.Pairs
import FluentSql.Proofs.Record.Readings
import FluentSql.Proofs.Text.Caseless
import FluentSql.Proofs.Text.Percent
import FluentSql.Proofs.Text.Utf8
import FluentSql.Proofs.Text.Words
import FluentSql.Proofs.Url.Written
import FluentSql.Proofs.Uuid
import FluentSql.Proofs.Value.Integers
import FluentSql.Proofs.Value.Plain
import FluentSql.Query.Access
import FluentSql.Query.Builder
import FluentSql.Query.Compile
import FluentSql.Query.Condition
import FluentSql.Query.Statement
import FluentSql.Record
import FluentSql.Session
import FluentSql.Sqlite.Engine
import FluentSql.Sqlite.Row
import FluentSql.Sqlite.Statement
import FluentSql.Sqlite.Token
import FluentSql.Text.Blank
import FluentSql.Text.Hex
import FluentSql.Text.Percent
import FluentSql.Text.Printable
import FluentSql.Text.Quoted
import FluentSql.Text.Utf8
import FluentSql.Url.Address
import FluentSql.Url.Basic
import FluentSql.Url.Host
import FluentSql.Uuid
import FluentSql.Value
