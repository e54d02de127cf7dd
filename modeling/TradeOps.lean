import TradeOps.Lib.Checks
import TradeOps.Lib.Json
import TradeOps.Lib.JsonText
import TradeOps.Lib.Keyed
import TradeOps.Lib.SortBy
import TradeOps.Entry.DomainV3
import TradeOps.Entry.ValidationV3
import TradeOps.Entry.MatcherV3
import TradeOps.Entry.ArbitratorV3
import TradeOps.Entry.EligiblePairs
import TradeOps.Entry.EarliestTrigger
import TradeOps.Entry.ArbitratorV3Py
import TradeOps.Entry.ParityV3
import TradeOps.Entry.RuleContractV3
import TradeOps.Entry.Evaluable
import TradeOps.Entry.Totality
import TradeOps.Entry.OpenedSeed
import TradeOps.Lib.Runs
import TradeOps.Lib.Readers
import TradeOps.Lib.Tables
import TradeOps.Admission.Schema
import TradeOps.Admission.Statements
import TradeOps.Admission.Evolution
import TradeOps.Admission.Decision
import TradeOps.Admission.Store
import TradeOps.Admission.World
import TradeOps.Admission.Effects
import TradeOps.Admission.Invariant
import TradeOps.Admission.Leases
import TradeOps.Admission.Reasons
import TradeOps.Admission.Inbox
import TradeOps.Admission.Exchange
import TradeOps.Lib.JsValue
import TradeOps.Lib.JsText
import TradeOps.Lib.JsParse
import TradeOps.Lib.Patterns
import TradeOps.Telemetry.Values
import TradeOps.Telemetry.Schema
import TradeOps.Telemetry.Records
import TradeOps.Telemetry.Wire
import TradeOps.Telemetry.Responses
import TradeOps.Telemetry.Journal
import TradeOps.Telemetry.Database
import TradeOps.Telemetry.Repository
import TradeOps.Telemetry.Preparation
import TradeOps.Telemetry.Batches
import TradeOps.Telemetry.Streams
import TradeOps.Lib.Numerals
import TradeOps.Telemetry.Decimals
import TradeOps.Lib.SafeIntegers
import TradeOps.Broker.ExactPrice
import TradeOps.Broker.Capability
import TradeOps.Lib.JsImage
import TradeOps.Telemetry.CanonicalImage
import TradeOps.Lib.Promises
import TradeOps.Telemetry.Queue
import TradeOps.Lib.Programs
import TradeOps.Agent.Values
import TradeOps.Agent.Record
import TradeOps.Agent.Codec
import TradeOps.Agent.Storage
import TradeOps.Agent.State
import TradeOps.Agent.Operations
import TradeOps.Agent.Compact
import TradeOps.Agent.Roots
import TradeOps.Agent.Disks
import TradeOps.Agent.Publish
import TradeOps.Agent.Frames
import TradeOps.Agent.Follows
import TradeOps.Agent.Staging
import TradeOps.Agent.History
import TradeOps.Agent.Live
import TradeOps.Agent.Transitions
import TradeOps.Agent.Calls
import TradeOps.Agent.Outcomes
import TradeOps.Agent.Deletion
import TradeOps.Agent.Retirement
import TradeOps.Agent.Compaction
import TradeOps.Agent.Checkpoints
import TradeOps.Agent.Beginning
import TradeOps.Agent.Sessions
import TradeOps.Agent.Validators
import TradeOps.Agent.Crashes
import TradeOps.Agent.Sequences
import TradeOps.Paper.Accounts
import TradeOps.Paper.Readiness
import TradeOps.Lib.Gapless
import TradeOps.Paper.Ledger
import TradeOps.Paper.SafeRange
import TradeOps.Lib.Jobs
import TradeOps.Lib.JobRules
import TradeOps.EntryV2.Tables
import TradeOps.EntryV2.Append
import TradeOps.EntryV2.Completion
import TradeOps.EntryV2.Delivery
import TradeOps.EntryV3.Payload
import TradeOps.EntryV3.Wire
import TradeOps.EntryV3.Bundles
import TradeOps.EntryV3.Authority
import TradeOps.Lib.Doubles
import TradeOps.EntryV3.Tables
import TradeOps.EntryV3.Decisions
import TradeOps.EntryV3.Append
import TradeOps.EntryV3.Effects
import TradeOps.EntryV3.Calls
import TradeOps.EntryV3.Ownership
import TradeOps.EntryV3.Settlement
import TradeOps.Heartbeat.Coordinator
import TradeOps.Heartbeat.Acceptance
import TradeOps.Heartbeat.Handler
import TradeOps.Heartbeat.Projection
import TradeOps.Heartbeat.Agent
import TradeOps.Heartbeat.Staleness
import TradeOps.Heartbeat.Agreement
import TradeOps.Lib.JsOrder
import TradeOps.Canonical.Python
import TradeOps.Canonical.Encoders
import TradeOps.Proposals.Deliveries
import TradeOps.Proposals.Fencing
import TradeOps.Proposals.Ingestion
import TradeOps.Proposals.Recorded
import TradeOps.EntryModels.Domain
import TradeOps.EntryModels.FlipScan
import TradeOps.EntryModels.Coverage
import TradeOps.EntryModels.FlipProofs
import TradeOps.EntryModels.Verdicts
import TradeOps.EntryModels.Prefixes
import TradeOps.EntryModels.Records
import TradeOps.EntryModels.Arbitrator
import TradeOps.EntryModels.ArbitratorPy
import TradeOps.EntryModels.Collected
import TradeOps.EntryModels.Arbitration
import TradeOps.EntryModels.Selections
import TradeOps.EntryModels.Parity
import TradeOps.StrictJson.Parser
import TradeOps.StrictJson.Grammar
import TradeOps.StrictJson.Sound
import TradeOps.StrictJson.Exact
import TradeOps.StrictJson.Surrogates
import TradeOps.Lib.Fractions
import TradeOps.Market.Numbers
import TradeOps.Market.Exactness
import TradeOps.Agent.Exact
import TradeOps.Agent.Batches
import TradeOps.Agent.Appending
import TradeOps.Agent.Retries
import TradeOps.Agent.CaptureValues
import TradeOps.Agent.CaptureJson
import TradeOps.Agent.CaptureCheckpoint
