import VectorLink.Calendar.Date
import VectorLink.Calendar.Moment
import VectorLink.Calendar.Parts
import VectorLink.Calendar.Reading
import VectorLink.Client.Call
import VectorLink.Client.Connect
import VectorLink.Client.Interpretation
import VectorLink.Client.Operation
import VectorLink.Config.Basic
import VectorLink.Config.File
import VectorLink.Config.Load
import VectorLink.Connection.Failure
import VectorLink.Connection.Handle
import VectorLink.Connection.Lifecycle
import VectorLink.Connection.Link
import VectorLink.Connection.Manager
import VectorLink.Connection.Patience
import VectorLink.Connection.Session
import VectorLink.Document.Json
import VectorLink.Document.Yaml.Cursor
import VectorLink.Document.Yaml.Fault
import VectorLink.Document.Yaml.Lexer
import VectorLink.Document.Yaml.Node
import VectorLink.Document.Yaml.Read
import VectorLink.Document.Yaml.Scalar
import VectorLink.Document.Yaml.Tag
import VectorLink.Document.Yaml.Token
import VectorLink.Domain.ClientError
import VectorLink.Domain.Clock
import VectorLink.Domain.Construction
import VectorLink.Domain.Endpoint
import VectorLink.Domain.Fault
import VectorLink.Domain.Outcome
import VectorLink.Domain.Raised
import VectorLink.Domain.Result
import VectorLink.Domain.Status
import VectorLink.Domain.Table
import VectorLink.Domain.Vectors
import VectorLink.Number.Binary64
import VectorLink.Number.Decimal
import VectorLink.Number.Format
import VectorLink.Number.Numeral
import VectorLink.Number.Power
import VectorLink.Number.Shortest
import VectorLink.Release
import VectorLink.Scenario.Report
import VectorLink.Scenario.Run
import VectorLink.Scenario.Step
import VectorLink.Text.Blank
import VectorLink.Text.Casing
import VectorLink.Text.Digit
import VectorLink.Text.Printable
import VectorLink.Text.Quoted
import VectorLink.Text.Utf8
import VectorLink.Validation.Checked
import VectorLink.Validation.Coercion
import VectorLink.Validation.Issue
import VectorLink.Value.Basic
import VectorLink.Value.Shown
import VectorLink.Value.Tensor
import VectorLink.Value.Text
import VectorLink.Wire.Assignment
import VectorLink.Wire.Description
import VectorLink.Wire.Message
import VectorLink.Wire.Reply
import VectorLink.Wire.Schema
import VectorLink.Wire.Service
import VectorLink.Wire.Token
import VectorLink.Wire.Varint
import VectorLink.Proofs.Evolution
import VectorLink.Proofs.Activity
import VectorLink.Proofs.Runs
import VectorLink.Proofs.Draining
import VectorLink.Proofs.Lifecycle
import VectorLink.Proofs.Requests
import VectorLink.Proofs.Operations
import VectorLink.Proofs.Binding
import VectorLink.Proofs.Statuses
import VectorLink.Proofs.Interleaving
import VectorLink.Proofs.Alone
import VectorLink.Proofs.Admission
import VectorLink.Proofs.Tokens
import VectorLink.Proofs.Messages
import VectorLink.Proofs.Interpretation
import VectorLink.Proofs.Building
import VectorLink.Proofs.Acceptance
import VectorLink.Proofs.Fidelity
import VectorLink.Proofs.Phases
import VectorLink.Proofs.Polling
import VectorLink.Proofs.Upkeep
import VectorLink.Proofs.Custody
import VectorLink.Proofs.Decision
import VectorLink.Proofs.Aftermath
import VectorLink.Proofs.Parting
import VectorLink.Proofs.Failing
import VectorLink.Proofs.Chronicle
import VectorLink.Proofs.Standing
import VectorLink.Proofs.Tracing
import VectorLink.Proofs.Oblivion
import VectorLink.Proofs.Passage
import VectorLink.Proofs.Stalled
import VectorLink.Proofs.Counting
import VectorLink.Proofs.Leaving
import VectorLink.Proofs.Echo
import VectorLink.Proofs.Mappings
import VectorLink.Proofs.Precedence
import VectorLink.Proofs.Dialling
import VectorLink.Proofs.Shadowing
import VectorLink.Proofs.Rounding
import VectorLink.Proofs.Waiting
import VectorLink.Proofs.Rectangles
import VectorLink.Proofs.DateTexts
import VectorLink.Proofs.Items
import VectorLink.Proofs.Precision
import VectorLink.Proofs.RowForms
import VectorLink.Proofs.IdArrays
import VectorLink.Proofs.Bounds
import VectorLink.Proofs.Rebuilding
