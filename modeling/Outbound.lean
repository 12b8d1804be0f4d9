import Outbound.Binary64.Arithmetic
import Outbound.Binary64.Basic
import Outbound.Binary64.Decimal
import Outbound.Binary64.Shortest
import Outbound.Binary64.Text
import Outbound.Chain.Admission
import Outbound.Chain.Basic
import Outbound.Chain.Deadline
import Outbound.Chain.Engine
import Outbound.Chain.Layer
import Outbound.Chain.Order
import Outbound.Chain.Passage
import Outbound.Chain.Repetition
import Outbound.Chain.RequestId
import Outbound.Chain.Tracing
import Outbound.Chain.Transport
import Outbound.Chain.World
import Outbound.Duration
import Outbound.Entropy
import Outbound.Failure.Basic
import Outbound.Failure.Kind
import Outbound.Failure.Naming
import Outbound.Json.Basic
import Outbound.Json.Exact
import Outbound.Json.Numeral
import Outbound.Json.Printer
import Outbound.Json.Reader
import Outbound.Json.Record
import Outbound.Json.Token
import Outbound.Lifecycle.Shutdown
import Outbound.Lifecycle.Wait
import Outbound.Limiter.Acquire
import Outbound.Limiter.Basic
import Outbound.Limiter.Config
import Outbound.Limiter.Contention
import Outbound.Limiter.Crowd
import Outbound.Limiter.Gate
import Outbound.Limiter.LeakyBucket
import Outbound.Limiter.Maintenance
import Outbound.Limiter.Operation
import Outbound.Limiter.Slots
import Outbound.Limiter.Strategy
import Outbound.Limiter.TokenBucket
import Outbound.Limiter.Verdict
import Outbound.Limiter.Window
import Outbound.Message.Basic
import Outbound.Message.Context
import Outbound.Message.Edit
import Outbound.Message.Header
import Outbound.Message.Method
import Outbound.Message.Status
import Outbound.Message.Token
import Outbound.Net.Address
import Outbound.Net.Client
import Outbound.Net.Domain
import Outbound.Net.Domain.Direction
import Outbound.Net.Domain.Joining
import Outbound.Net.Domain.Mapping
import Outbound.Net.Host
import Outbound.Net.Percent
import Outbound.Net.Punycode
import Outbound.Net.Target
import Outbound.Net.Url.Basic
import Outbound.Net.Url.Path
import Outbound.Net.Url.Reader
import Outbound.Pattern.Basic
import Outbound.Pattern.Escape
import Outbound.Pattern.Meaning
import Outbound.Pattern.Reader
import Outbound.Pattern.SetReader
import Outbound.Proofs.Binary64.Exact
import Outbound.Proofs.Chain.Account
import Outbound.Proofs.Chain.Admitted
import Outbound.Proofs.Chain.Agreement
import Outbound.Proofs.Chain.Arrangement
import Outbound.Proofs.Chain.Budget
import Outbound.Proofs.Chain.Calm
import Outbound.Proofs.Chain.Cancellation
import Outbound.Proofs.Chain.Course
import Outbound.Proofs.Chain.Covered
import Outbound.Proofs.Chain.Deadlines
import Outbound.Proofs.Chain.Decided
import Outbound.Proofs.Chain.Eager
import Outbound.Proofs.Chain.Introspection
import Outbound.Proofs.Chain.Onion
import Outbound.Proofs.Chain.Pass
import Outbound.Proofs.Chain.Repeated
import Outbound.Proofs.Chain.Replay
import Outbound.Proofs.Chain.Retry
import Outbound.Proofs.Chain.Sends
import Outbound.Proofs.Chain.Sent
import Outbound.Proofs.Chain.Silence
import Outbound.Proofs.Chain.Traffic
import Outbound.Proofs.Chain.Turn
import Outbound.Proofs.Chain.World
import Outbound.Proofs.Failure.Causes
import Outbound.Proofs.Limiter.Abandonment
import Outbound.Proofs.Limiter.Admission
import Outbound.Proofs.Limiter.Charge
import Outbound.Proofs.Limiter.Conservation
import Outbound.Proofs.Limiter.Contention
import Outbound.Proofs.Limiter.Crowd
import Outbound.Proofs.Limiter.Decisions
import Outbound.Proofs.Limiter.Denial
import Outbound.Proofs.Limiter.Earliest
import Outbound.Proofs.Limiter.Gate
import Outbound.Proofs.Limiter.Hindsight
import Outbound.Proofs.Limiter.Ideal
import Outbound.Proofs.Limiter.Lateness
import Outbound.Proofs.Limiter.Maintenance
import Outbound.Proofs.Limiter.Moves
import Outbound.Proofs.Limiter.Punctual
import Outbound.Proofs.Limiter.Rate
import Outbound.Proofs.Limiter.Recent
import Outbound.Proofs.Limiter.Recorded
import Outbound.Proofs.Limiter.Retained
import Outbound.Proofs.Limiter.Slots
import Outbound.Proofs.Limiter.Spacing
import Outbound.Proofs.Limiter.Tokens
import Outbound.Proofs.Limiter.Tolerance
import Outbound.Proofs.Limiter.Trials
import Outbound.Proofs.Limiter.Turns
import Outbound.Proofs.Limiter.Unpruned
import Outbound.Proofs.Limiter.Window
import Outbound.Proofs.Lockstep
import Outbound.Proofs.Retry.Attempts
import Outbound.Proofs.Retry.Delays
import Outbound.Proofs.Retry.Policy
import Outbound.Proofs.Scene
import Outbound.Proofs.Settings.Completeness
import Outbound.Proofs.Table
import Outbound.Rehearsal.Script
import Outbound.Rehearsal.Session
import Outbound.Rehearsal.Tests
import Outbound.Retry.Backoff
import Outbound.Retry.Policy
import Outbound.Scene.Basic
import Outbound.Scene.Clock
import Outbound.Settings.Assembly
import Outbound.Settings.Basic
import Outbound.Settings.File
import Outbound.Settings.Format
import Outbound.Settings.Problem
import Outbound.Table
import Outbound.Telemetry.Basic
import Outbound.Telemetry.Filter
import Outbound.Telemetry.Series
import Outbound.Telemetry.Trace
import Outbound.Text.Alphanumeric
import Outbound.Text.Blank
import Outbound.Text.Composition
import Outbound.Text.Quoted
import Outbound.Text.Ranges
import Outbound.Text.Replacements
import Outbound.Text.Unprintable
import Outbound.Toml.Document
import Outbound.Toml.Lexical
import Outbound.Toml.Scalar
import Outbound.Toml.Text
import Outbound.Toml.Tree
import Outbound.Toml.Value
import Outbound.Word
