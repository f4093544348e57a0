import BrokerClient.Broker.Request
import BrokerClient.Calendar.Date
import BrokerClient.Calendar.Instant
import BrokerClient.Calendar.Timestamp
import BrokerClient.Channel.Close
import BrokerClient.Channel.Options
import BrokerClient.Channel.Pool
import BrokerClient.Channel.Provision
import BrokerClient.Connection.Channels
import BrokerClient.Connection.Lifecycle
import BrokerClient.Connection.Manager
import BrokerClient.Consumer
import BrokerClient.Error
import BrokerClient.Event.Envelope
import BrokerClient.Handler.Basic
import BrokerClient.Handler.Registry
import BrokerClient.Json.Basic
import BrokerClient.Json.Printer
import BrokerClient.Json.Reader
import BrokerClient.Log
import BrokerClient.Message
import BrokerClient.Number.Binary64
import BrokerClient.Number.Decimal
import BrokerClient.Number.Power
import BrokerClient.Program
import BrokerClient.Program.Laws
import BrokerClient.Proofs.Client
import BrokerClient.Proofs.Course
import BrokerClient.Proofs.Decoding
import BrokerClient.Proofs.Running
import BrokerClient.Publisher
import BrokerClient.Report
import BrokerClient.Retry.Run
import BrokerClient.Retry.Schedule
import BrokerClient.Routing
import BrokerClient.Routing.Declare
import BrokerClient.Scenario.Action.Channel
import BrokerClient.Scenario.Action.Client
import BrokerClient.Scenario.Action.Handler
import BrokerClient.Scenario.Action.Network
import BrokerClient.Scenario.Answer
import BrokerClient.Scenario.Catalog
import BrokerClient.Scenario.Machine
import BrokerClient.Scenario.Network
import BrokerClient.Scenario.Report
import BrokerClient.Scenario.Script
import BrokerClient.Scenario.Snapshot
import BrokerClient.Scenario.Step
import BrokerClient.Scenario.World
import BrokerClient.Settings.Basic
import BrokerClient.Settings.Dotenv
import BrokerClient.Table
import BrokerClient.Text.Blank
import BrokerClient.Text.Percent
import BrokerClient.Text.Printable
import BrokerClient.Text.Quoted
import BrokerClient.Trace.Attribute
import BrokerClient.Trace.Span
import BrokerClient.Validation.Form
import BrokerClient.Validation.Issue
import BrokerClient.Validation.Scalar
import BrokerClient.Proofs.Wrapping
import BrokerClient.Proofs.Deliveries
import BrokerClient.Proofs.Pool.Stages
import BrokerClient.Proofs.Pool.Scene
import BrokerClient.Proofs.Pool.Lending
import BrokerClient.Proofs.Pool.Growth
import BrokerClient.Proofs.Pool.Forgetting
import BrokerClient.Proofs.Ownership.Ledger
import BrokerClient.Proofs.Ownership.Manager
import BrokerClient.Proofs.Ownership.Operations
import BrokerClient.Proofs.Pool.Filling
import BrokerClient.Proofs.Pool.Chronicle
import BrokerClient.Proofs.Pool.Lateness
import BrokerClient.Proofs.Timestamps
import BrokerClient.Proofs.Runs
import BrokerClient.Proofs.Addresses
import BrokerClient.Proofs.Attempts
import BrokerClient.Proofs.Handling
import BrokerClient.Proofs.Dispatching
import BrokerClient.Proofs.InProcess
import BrokerClient.Proofs.Mirroring
import BrokerClient.Proofs.Tracing
import BrokerClient.Proofs.Overlapping
import BrokerClient.Proofs.Interleaving
import BrokerClient.Proofs.Connections
import BrokerClient.Proofs.Pool.Opening
import BrokerClient.Proofs.Connecting
import BrokerClient.Proofs.Disconnecting
import BrokerClient.Proofs.Provisioning
import BrokerClient.Proofs.Creating
import BrokerClient.Proofs.Consuming
import BrokerClient.Proofs.Restarting
import BrokerClient.Proofs.Reports
import BrokerClient.Proofs.Tracking.Fate
import BrokerClient.Proofs.Tracking.Calls
import BrokerClient.Proofs.Tracking.Abandonment
import BrokerClient.Proofs.Tracking.Turnover
import BrokerClient.Proofs.Number.Bits
import BrokerClient.Proofs.Number.Rounding
import BrokerClient.Proofs.Number.Shortest
import BrokerClient.Proofs.Number.Order
import BrokerClient.Proofs.Number.Powers
import BrokerClient.Proofs.Number.Arithmetic
import BrokerClient.Proofs.Delays
import BrokerClient.Proofs.Retrying
import BrokerClient.Proofs.Publishing
import BrokerClient.Proofs.Expirations
import BrokerClient.Proofs.Json.Numbers
import BrokerClient.Proofs.Json.Strings
import BrokerClient.Proofs.Json.Fitting
import BrokerClient.Proofs.Json.RoundTrip
import BrokerClient.Proofs.Calendar.Days
import BrokerClient.Proofs.Calendar.Written
import BrokerClient.Proofs.WireFormat
import BrokerClient.Proofs.Registering
import BrokerClient.Proofs.Lifecycle
import BrokerClient.Proofs.Calendar.Succession
import BrokerClient.Proofs.Calendar.Writings
import BrokerClient.Proofs.Naming
import BrokerClient.Proofs.Forms
import BrokerClient.Proofs.Json.Equality
import BrokerClient.Proofs.Envelopes
import BrokerClient.Proofs.Moments
import BrokerClient.Proofs.Spelling
import BrokerClient.Proofs.Spans
import BrokerClient.Proofs.Nesting
import BrokerClient.Proofs.Pool.Refilling
