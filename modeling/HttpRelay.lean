import HttpRelay.Address
import HttpRelay.Bytes
import HttpRelay.CommandLine
import HttpRelay.Config.Basic
import HttpRelay.Config.Loading
import HttpRelay.Config.Reading
import HttpRelay.Config.Rules
import HttpRelay.Config.Tree
import HttpRelay.Directory
import HttpRelay.Fault
import HttpRelay.Main
import HttpRelay.Message.Field
import HttpRelay.Message.Framing
import HttpRelay.Message.Header
import HttpRelay.Message.HeaderError
import HttpRelay.Message.Kind
import HttpRelay.Message.Limits
import HttpRelay.Message.Line
import HttpRelay.Message.Receiver
import HttpRelay.Message.StartLine
import HttpRelay.Monitor
import HttpRelay.Relay.Body
import HttpRelay.Relay.BodyError
import HttpRelay.Relay.ChunkSize
import HttpRelay.Relay.Exchange
import HttpRelay.Relay.Failure
import HttpRelay.Relay.Pass
import HttpRelay.Relay.Sequence
import HttpRelay.Relay.Side
import HttpRelay.Relay.Sink
import HttpRelay.Report.Log
import HttpRelay.Report.Metrics
import HttpRelay.Report.Page
import HttpRelay.Server
import HttpRelay.Service
import HttpRelay.Session.Basic
import HttpRelay.Session.Connection
import HttpRelay.Session.View
import HttpRelay.Shutdown
import HttpRelay.Status
import HttpRelay.Stream.Scanner
import HttpRelay.Stream.Source
import HttpRelay.Text.Blank
import HttpRelay.Text.Duration
import HttpRelay.Text.Numeral
import HttpRelay.Text.Parts
import HttpRelay.Text.Quoted
import HttpRelay.Text.Reader
import HttpRelay.Text.Shown
import HttpRelay.Text.Utf8
import HttpRelay.Toml.Document
import HttpRelay.Toml.Layout
import HttpRelay.Toml.Moment
import HttpRelay.Toml.Number
import HttpRelay.Toml.Quoted
import HttpRelay.Toml.Table
import HttpRelay.Toml.Value
import HttpRelay.Tracker
import HttpRelay.Proofs.Entries
import HttpRelay.Proofs.Tracker
import HttpRelay.Proofs.Stream.Scanning
import HttpRelay.Proofs.Stream.Steadiness
import HttpRelay.Proofs.Stream.Arrival
import HttpRelay.Proofs.Message.LineLimit
import HttpRelay.Proofs.Relay.Steps
import HttpRelay.Proofs.Relay.Segmentation
import HttpRelay.Proofs.Relay.BodyGrammar
import HttpRelay.Proofs.Relay.BodyOutput
import HttpRelay.Proofs.Message.Fields
import HttpRelay.Proofs.Message.OneShot
import HttpRelay.Proofs.Message.HeaderGrammar
import HttpRelay.Proofs.Message.Reencoding
import HttpRelay.Proofs.Relay.BodyTracking
import HttpRelay.Proofs.Relay.BodyAccount
import HttpRelay.Proofs.Relay.SizeLine
import HttpRelay.Proofs.Relay.Chunked
import HttpRelay.Proofs.Relay.PassTracking
import HttpRelay.Proofs.Relay.Delivery
import HttpRelay.Proofs.Relay.Response
import HttpRelay.Proofs.Relay.Request
import HttpRelay.Proofs.Relay.Succession
import HttpRelay.Proofs.Relay.Boundaries
import HttpRelay.Proofs.Relay.Truncation
import HttpRelay.Proofs.Relay.Idempotence
import HttpRelay.Proofs.Session.Relaying
import HttpRelay.Proofs.Session.Evolution
import HttpRelay.Proofs.Session.Ordering
import HttpRelay.Proofs.Session.Isolation
import HttpRelay.Proofs.Session.Counting
import HttpRelay.Proofs.Session.Draining
import HttpRelay.Proofs.Session.Eagerness
import HttpRelay.Proofs.Session.Interleaving
import HttpRelay.Proofs.Server.Slots
import HttpRelay.Proofs.Relay.Race
import HttpRelay.Proofs.Session.Occupancy
import HttpRelay.Proofs.Message.Elements
import HttpRelay.Proofs.Message.Layout
import HttpRelay.Proofs.Message.ListSyntax
import HttpRelay.Proofs.Message.EmptyLists
import HttpRelay.Proofs.Tracker.History
import HttpRelay.Proofs.Shutdown
import HttpRelay.Proofs.Address
import HttpRelay.Proofs.Config.Violations
import HttpRelay.Proofs.Server.Starting
import HttpRelay.Proofs.Stream.Likeness
import HttpRelay.Proofs.Relay.LimitedSink
import HttpRelay.Proofs.Relay.DataPosition
import HttpRelay.Proofs.Relay.LimitedRelay
import HttpRelay.Proofs.Monitor
import HttpRelay.Proofs.Message.LineReading
import HttpRelay.Proofs.Relay.LineCalls
