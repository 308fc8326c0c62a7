import EventRelay.Counters
import EventRelay.DeadLetter
import EventRelay.Decimal.Integer
import EventRelay.Decimal.Literal
import EventRelay.Decimal.Shortest
import EventRelay.Decimal.Style
import EventRelay.Dictionary
import EventRelay.Duration
import EventRelay.Envelope
import EventRelay.Failure.Basic
import EventRelay.Failure.Broker
import EventRelay.Failure.BrokerCode
import EventRelay.Failure.Kind
import EventRelay.Headers
import EventRelay.Instant.Basic
import EventRelay.Instant.Calendar
import EventRelay.Instant.Printer
import EventRelay.Instant.Reader
import EventRelay.IntegrationEvent
import EventRelay.Journal
import EventRelay.Json.Number
import EventRelay.Json.Quoted
import EventRelay.Json.Record
import EventRelay.Json.Scalar
import EventRelay.Json.Token
import EventRelay.Json.Tree
import EventRelay.Json.Value
import EventRelay.Message
import EventRelay.Orders.Event
import EventRelay.Orders.Mapping
import EventRelay.Outbox.Decoding
import EventRelay.Outbox.Row
import EventRelay.Overflow
import EventRelay.Proofs.Abandonment
import EventRelay.Proofs.Assertions
import EventRelay.Proofs.CommitSafety
import EventRelay.Proofs.Completion
import EventRelay.Proofs.Conformance
import EventRelay.Proofs.History
import EventRelay.Proofs.LateAttempts
import EventRelay.Proofs.OrderSums
import EventRelay.Proofs.Outlines
import EventRelay.Proofs.PartitionOrder
import EventRelay.Proofs.PartitionedLog
import EventRelay.Proofs.Phases
import EventRelay.Proofs.Reading
import EventRelay.Proofs.Recording
import EventRelay.Proofs.Settlements
import EventRelay.Proofs.Since
import EventRelay.Registry
import EventRelay.Relay.ClientWatch
import EventRelay.Relay.Delivery
import EventRelay.Relay.Environment
import EventRelay.Relay.Forwarder
import EventRelay.Relay.Logging
import EventRelay.Relay.Loop
import EventRelay.Relay.Report
import EventRelay.Relay.Settlement
import EventRelay.Relay.Setup
import EventRelay.Retry.Engine
import EventRelay.Retry.Policy
import EventRelay.Retry.Power
import EventRelay.Retry.Sample
import EventRelay.Retry.Strategy
import EventRelay.Session
import EventRelay.Settings.Basic
import EventRelay.Settings.Fault
import EventRelay.Settings.Field
import EventRelay.Settings.Service
import EventRelay.Settings.VariableFile
import EventRelay.Settings.Variables
import EventRelay.Signal
import EventRelay.Simulation.Clock
import EventRelay.Simulation.Scene
import EventRelay.Simulation.Stage
import EventRelay.Simulation.Switchboard
import EventRelay.Simulation.Work
import EventRelay.Simulation.World
import EventRelay.SourceRecord
import EventRelay.Text.Alphanumeric
import EventRelay.Text.Blank
import EventRelay.Text.Hex
import EventRelay.Text.Utf8
import EventRelay.Timeout
import EventRelay.Timer
import EventRelay.Uuid
import EventRelay.Word
import EventRelay.Proofs.CommitFailure
import EventRelay.Proofs.Accounts
import EventRelay.Proofs.RetryCourse
import EventRelay.Proofs.Callbacks
import EventRelay.Proofs.ClientLoss
import EventRelay.Proofs.Cancellation
import EventRelay.Proofs.Isolation
import EventRelay.Proofs.Denotation
import EventRelay.Proofs.Renderings
import EventRelay.Proofs.Replay
import EventRelay.Proofs.QuotedTexts
import EventRelay.Proofs.WrittenIntegers
import EventRelay.Proofs.TreeTokens
import EventRelay.Proofs.WrittenValues
import EventRelay.Proofs.CalendarDays
import EventRelay.Proofs.WrittenInstants
import EventRelay.Proofs.WrittenScalars
import EventRelay.Proofs.OrderForms
import EventRelay.Proofs.Announcements
import EventRelay.Proofs.ReservedHeaders
import EventRelay.Proofs.EventTimes
import EventRelay.Proofs.Redelivery
import EventRelay.Proofs.RetryBudget
import EventRelay.Proofs.RowColumns
import EventRelay.Proofs.RowImages
import EventRelay.Proofs.AddedMembers
import EventRelay.Proofs.Identity
import EventRelay.Proofs.ListedRows
import EventRelay.Proofs.OrderTotals
import EventRelay.Proofs.HeaderPrecedence
import EventRelay.Proofs.OverseenWork
import EventRelay.Proofs.PublishBudget
import EventRelay.Proofs.DenotedValues
import EventRelay.Proofs.HeededValues
import EventRelay.Proofs.Payloads
import EventRelay.Proofs.Correlation
import EventRelay.Proofs.DoubleValues
import EventRelay.Proofs.DoubleRounding
import EventRelay.Proofs.DoubleArithmetic
import EventRelay.Proofs.Backoff
import EventRelay.Proofs.SoundSettings
import EventRelay.Proofs.LetterContents
import EventRelay.Proofs.KindLists
import EventRelay.Proofs.RegistryCalls
import EventRelay.Proofs.Likeness
import EventRelay.Proofs.Transcripts
import EventRelay.Proofs.WordDurations
import EventRelay.Proofs.AlikeRelays
import EventRelay.Proofs.LoggedRelays
import EventRelay.Proofs.Schedules
import EventRelay.Proofs.RetrySamples
import EventRelay.Proofs.RelaySamples
