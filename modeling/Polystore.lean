import Polystore.Backend
import Polystore.Calendar.Clock
import Polystore.Calendar.Date
import Polystore.Calendar.DateTime
import Polystore.Calendar.Stamp
import Polystore.Cli.Arguments
import Polystore.Cli.Program
import Polystore.Cli.Switch
import Polystore.Command.Document
import Polystore.Command.KeyValue
import Polystore.Connection
import Polystore.Descriptor
import Polystore.Engine.Catalog
import Polystore.Engine.Mongo
import Polystore.Engine.Mysql
import Polystore.Engine.Postgres
import Polystore.Engine.Redis
import Polystore.Engine.Relational
import Polystore.Engine.Reply
import Polystore.Engine.Sqlite
import Polystore.Export
import Polystore.Export.Csv
import Polystore.Export.Insert
import Polystore.ExtendedJson
import Polystore.Failure
import Polystore.Field
import Polystore.History
import Polystore.Hub
import Polystore.Json.Printer
import Polystore.Json.Reader
import Polystore.Main
import Polystore.Native.Dialogue
import Polystore.Native.Log
import Polystore.Native.Request
import Polystore.Native.Script
import Polystore.Number.Binary64
import Polystore.Number.Decimal
import Polystore.Number.FloatText
import Polystore.Number.Integer
import Polystore.Number.Power
import Polystore.Number.Shortest
import Polystore.OrderedMap
import Polystore.Proofs.Cli.Dialect
import Polystore.Proofs.Cli.Program
import Polystore.Proofs.Command.Document
import Polystore.Proofs.Descriptor.Address
import Polystore.Proofs.Engine.Calls
import Polystore.Proofs.Engine.Errors
import Polystore.Proofs.Engine.Lossless
import Polystore.Proofs.Engine.Opening
import Polystore.Proofs.Engine.Records
import Polystore.Proofs.Engine.Tables
import Polystore.Proofs.Export.Csv
import Polystore.Proofs.Export.Insert
import Polystore.Proofs.Export.Json
import Polystore.Proofs.Hub.Clients
import Polystore.Proofs.Hub.Errors
import Polystore.Proofs.Hub.Remembered
import Polystore.Proofs.Hub.Run
import Polystore.Proofs.Hub.Tasks
import Polystore.Proofs.Json.Complete
import Polystore.Proofs.Json.Extended
import Polystore.Proofs.Json.Grammar
import Polystore.Proofs.Json.Made
import Polystore.Proofs.Json.NumberText
import Polystore.Proofs.Json.Scanner
import Polystore.Proofs.Json.Written
import Polystore.Proofs.Native.Ensures
import Polystore.Proofs.Native.Exchange
import Polystore.Proofs.Native.Reported
import Polystore.Proofs.Registry.Answered
import Polystore.Proofs.Registry.Apart
import Polystore.Proofs.Registry.Chronicle
import Polystore.Proofs.Registry.Conserved
import Polystore.Proofs.Registry.Debt
import Polystore.Proofs.Registry.Followed
import Polystore.Proofs.Registry.Idle
import Polystore.Proofs.Registry.Move
import Polystore.Proofs.Registry.Rest
import Polystore.Proofs.Registry.Share
import Polystore.Proofs.Registry.Sound
import Polystore.Proofs.Registry.View
import Polystore.Proofs.Sql.Scan
import Polystore.Proofs.Success
import Polystore.Proofs.Table.Cells
import Polystore.Proofs.Table.Documents
import Polystore.Proofs.Table.Maps
import Polystore.Proofs.Text.FormEncoding
import Polystore.Proofs.Text.Trim
import Polystore.Proofs.Value.Normal
import Polystore.Registry
import Polystore.Registry.Rehearsal
import Polystore.Schema
import Polystore.Schema.Report
import Polystore.Settings
import Polystore.Sql.Convention
import Polystore.Sql.Expression
import Polystore.Sql.Layout
import Polystore.Sql.Statement
import Polystore.Sql.Token
import Polystore.Table
import Polystore.Text.Address
import Polystore.Text.Base64
import Polystore.Text.Blank
import Polystore.Text.Digit
import Polystore.Text.FormEncoding
import Polystore.Text.Hex
import Polystore.Text.Pieces
import Polystore.Text.Printable
import Polystore.Text.Quoted
import Polystore.Text.Upper
import Polystore.Text.Utf8
import Polystore.Toml
import Polystore.Toml.Reader
import Polystore.Value
import Polystore.Value.Normal
import Polystore.Value.Printer
import Polystore.Value.TypeLabel
import Polystore.Value.Whole
import Polystore.Proofs.Text.Utf8
import Polystore.Proofs.Value.Binary
import Polystore.Proofs.Value.Label
import Polystore.Proofs.Registry.Clearance
import Polystore.Proofs.Registry.Mirror
import Polystore.Proofs.Number.Range
import Polystore.Proofs.Number.Digits
import Polystore.Proofs.Toml.Rest
import Polystore.Proofs.Toml.Flaws
import Polystore.Proofs.Toml.Fuel
import Polystore.Proofs.Settings.Fields
import Polystore.Proofs.Settings.Load
import Polystore.Proofs.Engine.Catalog
import Polystore.Proofs.Engine.Schema
import Polystore.Proofs.Engine.Keys
import Polystore.Proofs.History.Latest
import Polystore.Proofs.Engine.Content
import Polystore.Proofs.Cli.Output
import Polystore.Proofs.Text.Words
import Polystore.Proofs.Text.Pieces
import Polystore.Proofs.Command.KeyValue
import Polystore.Proofs.Engine.ColumnQuery
import Polystore.Proofs.Number.Numeral
import Polystore.Proofs.Engine.Database
import Polystore.Proofs.Value.TypeLabel
