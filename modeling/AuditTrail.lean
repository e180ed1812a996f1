import AuditTrail.AuditData
import AuditTrail.Capture.AuditError
import AuditTrail.Capture.Auditor
import AuditTrail.Capture.BoundedQueue
import AuditTrail.Capture.Dispatcher
import AuditTrail.Capture.LogSink
import AuditTrail.Capture.MemorySink
import AuditTrail.Capture.Partner
import AuditTrail.Capture.Record
import AuditTrail.Capture.Sink
import AuditTrail.Capture.Submission
import AuditTrail.Capture.Worker
import AuditTrail.Config.Basic
import AuditTrail.Config.Directory
import AuditTrail.Config.EnvFile
import AuditTrail.Config.Load
import AuditTrail.Config.OfJson
import AuditTrail.Config.OfYaml
import AuditTrail.Config.Placeholder
import AuditTrail.Config.ToYaml
import AuditTrail.Decimal.Binary64
import AuditTrail.Decimal.Layout
import AuditTrail.Decimal.Numeral
import AuditTrail.Decimal.Shortest
import AuditTrail.Entries
import AuditTrail.Event
import AuditTrail.Fault
import AuditTrail.Json.Basic
import AuditTrail.Json.ErrorText
import AuditTrail.Json.Ordered
import AuditTrail.Json.Parser
import AuditTrail.Json.Printer
import AuditTrail.Log
import AuditTrail.Logging.Config
import AuditTrail.Logging.Filter
import AuditTrail.Logging.Line
import AuditTrail.Logging.Logger
import AuditTrail.Logging.Path
import AuditTrail.Message
import AuditTrail.Object
import AuditTrail.Preview
import AuditTrail.Proofs.Config.Described
import AuditTrail.Proofs.Config.Expansion
import AuditTrail.Proofs.Config.Loading
import AuditTrail.Proofs.Config.LogSetup
import AuditTrail.Proofs.Config.Missing
import AuditTrail.Proofs.Config.Overrides
import AuditTrail.Proofs.Config.Placeholder
import AuditTrail.Proofs.Config.PlaceholderText
import AuditTrail.Proofs.Config.Precedence
import AuditTrail.Proofs.Config.Reload
import AuditTrail.Proofs.Config.Saved
import AuditTrail.Proofs.Config.Variables
import AuditTrail.Proofs.Decimal.Numeral
import AuditTrail.Proofs.Decimal.Rounding
import AuditTrail.Proofs.Decimal.Shortest
import AuditTrail.Proofs.Dispatch.Accounting
import AuditTrail.Proofs.Dispatch.Actions
import AuditTrail.Proofs.Dispatch.Barrier
import AuditTrail.Proofs.Dispatch.CachedResponse
import AuditTrail.Proofs.Dispatch.Draining
import AuditTrail.Proofs.Dispatch.Erasure
import AuditTrail.Proofs.Dispatch.Flush
import AuditTrail.Proofs.Dispatch.FlushSchedule
import AuditTrail.Proofs.Dispatch.History
import AuditTrail.Proofs.Dispatch.Lane
import AuditTrail.Proofs.Dispatch.Order
import AuditTrail.Proofs.Dispatch.Records
import AuditTrail.Proofs.Dispatch.Stages
import AuditTrail.Proofs.Dispatch.Usage
import AuditTrail.Proofs.Event.Identifier
import AuditTrail.Proofs.Event.Roundtrip
import AuditTrail.Proofs.Json.ErrorText
import AuditTrail.Proofs.Json.Line
import AuditTrail.Proofs.Json.Number
import AuditTrail.Proofs.Json.Roundtrip
import AuditTrail.Proofs.Logging.AuditFile
import AuditTrail.Proofs.Memory.Interleaving
import AuditTrail.Proofs.Message.Filling
import AuditTrail.Proofs.Preview.Chunks
import AuditTrail.Proofs.Preview.Truncation
import AuditTrail.Proofs.Projection.Obstacle
import AuditTrail.Proofs.Projection.Reach
import AuditTrail.Proofs.Projection.Representation
import AuditTrail.Proofs.Projection.Walk
import AuditTrail.Proofs.Redaction.Basic
import AuditTrail.Proofs.Redaction.Foreign
import AuditTrail.Proofs.Redaction.Hidden
import AuditTrail.Proofs.Redaction.Serialize
import AuditTrail.Proofs.Redaction.Spelling
import AuditTrail.Proofs.Redaction.Tiers
import AuditTrail.Proofs.Serialize.Failures
import AuditTrail.Proofs.Serialize.FieldDump
import AuditTrail.Proofs.Serialize.JsonValues
import AuditTrail.Proofs.Serialize.PayloadBound
import AuditTrail.Proofs.Serialize.PayloadLimit
import AuditTrail.Proofs.Serialize.Structured
import AuditTrail.Proofs.Serialize.Termination
import AuditTrail.Proofs.Serialize.Tiers
import AuditTrail.Proofs.Serialize.Timestamps
import AuditTrail.Proofs.Text.Lowercase
import AuditTrail.Proofs.Text.Nesting
import AuditTrail.Proofs.Text.Replace
import AuditTrail.Proofs.Text.Utf8
import AuditTrail.Proofs.Time.Calendar
import AuditTrail.Proofs.Time.Rfc3339
import AuditTrail.Proofs.Time.Specifier
import AuditTrail.Proofs.TypeName.Expression
import AuditTrail.Proofs.TypeName.Shortening
import AuditTrail.Proofs.View.Brackets
import AuditTrail.Proofs.View.Fallback
import AuditTrail.Proofs.View.Shown
import AuditTrail.Proofs.View.Template
import AuditTrail.Render.DateFormat
import AuditTrail.Render.FieldFilter
import AuditTrail.Render.PayloadLimit
import AuditTrail.Render.Projection
import AuditTrail.Render.Serialized
import AuditTrail.Render.Settings
import AuditTrail.Severity
import AuditTrail.Text.Alphanumeric
import AuditTrail.Text.Base64
import AuditTrail.Text.Blank
import AuditTrail.Text.CaseTables
import AuditTrail.Text.CharRanges
import AuditTrail.Text.Lowercase
import AuditTrail.Text.Printable
import AuditTrail.Text.Quoted
import AuditTrail.Text.Replace
import AuditTrail.Text.Utf8
import AuditTrail.Time.Calendar
import AuditTrail.Time.Pattern
import AuditTrail.Time.PatternText
import AuditTrail.Time.Rfc3339
import AuditTrail.Time.Timestamp
import AuditTrail.TypeName
import AuditTrail.Uuid
import AuditTrail.Value.Basic
import AuditTrail.Value.Debug
import AuditTrail.Value.OfJson
import AuditTrail.Value.View
import AuditTrail.Value.Written
import AuditTrail.Yaml.Cursor
import AuditTrail.Yaml.Document
import AuditTrail.Yaml.Lexer
import AuditTrail.Yaml.Node
import AuditTrail.Yaml.Number
import AuditTrail.Yaml.Scalar
import AuditTrail.Yaml.ScalarText
import AuditTrail.Yaml.Token
