import Dialogue.Chat
import Dialogue.Command.Arguments
import Dialogue.Command.Perform
import Dialogue.Condition
import Dialogue.Config.Basic
import Dialogue.Config.EnvFile
import Dialogue.Config.Load
import Dialogue.Config.Setting
import Dialogue.Config.Toml
import Dialogue.Config.Toml.Key
import Dialogue.Config.Toml.Moment
import Dialogue.Config.Toml.Scalar
import Dialogue.Config.Toml.Table
import Dialogue.Config.Toml.Text
import Dialogue.Config.Toml.Value
import Dialogue.Context
import Dialogue.Conversation
import Dialogue.Entries
import Dialogue.Envelope
import Dialogue.Expression.Basic
import Dialogue.Expression.Parser
import Dialogue.Failure
import Dialogue.Json.Agreement
import Dialogue.Json.Basic
import Dialogue.Json.Decoder
import Dialogue.Json.Fault
import Dialogue.Json.Printer
import Dialogue.Json.Reader
import Dialogue.Json.Scan
import Dialogue.Json.Shape
import Dialogue.Load
import Dialogue.Main
import Dialogue.Message
import Dialogue.Number.Basic
import Dialogue.Number.Binary64
import Dialogue.Number.Layout
import Dialogue.Number.Multiple
import Dialogue.Number.Numeral
import Dialogue.Number.Plain
import Dialogue.Number.Shortest
import Dialogue.Pattern.Basic
import Dialogue.Pattern.Parser
import Dialogue.Proofs.Json.NumberText
import Dialogue.Proofs.Json.Numeral
import Dialogue.Proofs.Json.Order
import Dialogue.Proofs.Json.Reading
import Dialogue.Proofs.Json.RoundTrip
import Dialogue.Proofs.Json.StringText
import Dialogue.Proofs.Text.Blank
import Dialogue.Proofs.Wire.Delimiter
import Dialogue.Proofs.Wire.Framing
import Dialogue.Proofs.Wire.Grammar
import Dialogue.Proofs.Wire.Header
import Dialogue.Run.Basic
import Dialogue.Run.Envelope
import Dialogue.Run.Machine
import Dialogue.Run.Script
import Dialogue.Run.Step
import Dialogue.Schema.Basic
import Dialogue.Schema.Bundled
import Dialogue.Schema.Catalogue
import Dialogue.Schema.Check
import Dialogue.Schema.Diagnostic
import Dialogue.Schema.Document
import Dialogue.Schema.Draft
import Dialogue.Schema.Field
import Dialogue.Schema.Format
import Dialogue.Schema.JsonType
import Dialogue.Schema.Limit
import Dialogue.Schema.Metaschema
import Dialogue.Schema.Pointer
import Dialogue.Schema.Scope
import Dialogue.Schema.Standard
import Dialogue.Schema.Standard.Basic
import Dialogue.Schema.Standard.Draft2019
import Dialogue.Schema.Standard.Draft2020
import Dialogue.Schema.Standard.Early
import Dialogue.Schema.Structure
import Dialogue.Script.Basic
import Dialogue.Script.Codec
import Dialogue.Script.Rules
import Dialogue.Template
import Dialogue.Text.Address
import Dialogue.Text.Alphanumeric
import Dialogue.Text.AlphanumericTable
import Dialogue.Text.Ascii
import Dialogue.Text.Base64
import Dialogue.Text.Blank
import Dialogue.Text.CaseTable
import Dialogue.Text.Category
import Dialogue.Text.CategoryTable
import Dialogue.Text.Clock
import Dialogue.Text.Email
import Dialogue.Text.Host
import Dialogue.Text.Leading
import Dialogue.Text.Lowercase
import Dialogue.Text.PrintableTable
import Dialogue.Text.Punycode
import Dialogue.Text.Quoted
import Dialogue.Text.Ranges
import Dialogue.Text.Script
import Dialogue.Text.Utf8
import Dialogue.Tool
import Dialogue.Uri
import Dialogue.Uri.Template
import Dialogue.Validation.Rules
import Dialogue.Validation.Verdict
import Dialogue.Validation.Violation
import Dialogue.Variables
import Dialogue.Wire.Parser
import Dialogue.Wire.Printer
import Dialogue.Wire.Token
import Dialogue.Proofs.Wire.RoundTrip
import Dialogue.Proofs.Run.Calls
import Dialogue.Proofs.Expression.Path
import Dialogue.Proofs.Expression.Grammar
import Dialogue.Proofs.Json.Record
import Dialogue.Proofs.Run.Completion
import Dialogue.Proofs.Script.Reading
import Dialogue.Proofs.Validation.Report
import Dialogue.Proofs.Run.Envelope
import Dialogue.Proofs.Entries
import Dialogue.Proofs.Script.Order
import Dialogue.Proofs.Script.Writing
import Dialogue.Proofs.Script.RoundTrip
import Dialogue.Proofs.Schema.Allowance
import Dialogue.Proofs.Schema.Bundled
import Dialogue.Proofs.Schema.Script
import Dialogue.Proofs.Schema.Envelope
import Dialogue.Proofs.Validation.Wire
import Dialogue.Proofs.Run.Logs
import Dialogue.Proofs.Run.Analysis
import Dialogue.Proofs.Validation.Text
import Dialogue.Proofs.Text.Utf8
import Dialogue.Proofs.Variables
import Dialogue.Proofs.Envelope
import Dialogue.Proofs.Run.Shown
import Dialogue.Proofs.Json.ShapeText
import Dialogue.Proofs.Load
import Dialogue.Proofs.Text.Slice
import Dialogue.Proofs.Validation.Guarantee
import Dialogue.Proofs.Wire.Composition
import Dialogue.Proofs.Wire.Place
import Dialogue.Proofs.Condition.Text
import Dialogue.Proofs.Number.Rounding
import Dialogue.Proofs.Number.Text
import Dialogue.Proofs.Template
import Dialogue.Proofs.Condition.Comparison
import Dialogue.Proofs.Run.Bindings
import Dialogue.Proofs.Run.FinalText
import Dialogue.Proofs.Run.Position
import Dialogue.Proofs.Run.ToolCall
import Dialogue.Proofs.Expression.Evaluation
import Dialogue.Proofs.Run.Extraction
import Dialogue.Proofs.Wire.Occurrence
import Dialogue.Proofs.Condition.Operators
import Dialogue.Proofs.Tool
