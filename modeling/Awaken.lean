import Awaken.Lib.Outcome
import Awaken.Lib.Table
import Awaken.Lib.Run
import Awaken.Lib.Text
import Awaken.Contract.Lifecycle
import Awaken.Contract.Mailbox
import Awaken.Stores.MailboxState
import Awaken.Stores.MemoryMailbox
import Awaken.Contract.DispatchShape
import Awaken.Stores.MemoryMailbox.Changes
import Awaken.Stores.MemoryMailbox.Fence
import Awaken.Stores.MemoryMailbox.Ownership
import Awaken.Stores.MemoryMailbox.Lifecycle
import Awaken.Stores.MemoryMailbox.GhostRuns
import Awaken.Stores.SqliteMailbox
import Awaken.Stores.SqliteMailbox.Rows
import Awaken.Stores.SqliteMailbox.Refinement
import Awaken.Stores.SqliteMailbox.Simulation
import Awaken.Stores.SqliteMailbox.ReloadSafety
import Awaken.Lib.Netstring
import Awaken.Contract.Scope
import Awaken.Contract.ScopedMailbox
import Awaken.Contract.ScopeIsolation
import Awaken.Stores.MemoryMailbox.Keyed
import Awaken.Lib.Commute
import Awaken.State.Slot
import Awaken.State.Mutation
import Awaken.State.Command
import Awaken.State.Store
import Awaken.State.ParallelMerge
import Awaken.Agent.LoopState
import Awaken.Agent.CommutativeKeys
import Awaken.Engine.Queue
import Awaken.Engine.Runtime
import Awaken.Engine.Submission
import Awaken.Engine.Partition
import Awaken.Engine.Gather
import Awaken.State.Plugin
import Awaken.State.Persistence
import Awaken.State.RestoreAtomicity
import Awaken.Engine.ScheduledActions
import Awaken.ToolPattern.Types
import Awaken.ToolPattern.Parser
import Awaken.ToolPattern.Reparse
import Awaken.ToolPattern.Lookahead
import Awaken.ToolPattern.Image
import Awaken.ToolPattern.RoundTrip
import Awaken.Permission.Rules
import Awaken.Lib.Program
import Awaken.Lib.Task
import Awaken.Contract.Message
import Awaken.Contract.Tool
import Awaken.ToolBatch.Executor
import Awaken.ToolBatch.Step
import Awaken.ToolBatch.Transcript
import Awaken.Contract.MessageLog
import Awaken.Contract.MessageAppend
import Awaken.Contract.MessageQuery
import Awaken.Contract.RunRecord
import Awaken.Contract.Thread
import Awaken.Contract.Delivery
import Awaken.Stores.MemoryStore
import Awaken.Lib.Filtered
import Awaken.Stores.MemoryStore.Pending
import Awaken.Stores.MemoryStore.Calls
import Awaken.Stores.MemoryStore.Numbering
import Awaken.Stores.MemoryStore.Queue
import Awaken.Stores.MemoryStore.Ledger
import Awaken.Stores.MemoryStore.FreezeAtomicity
import Awaken.Lib.Forest
import Awaken.Stores.MemoryStore.Deletion
import Awaken.Stores.MemoryStore.Hierarchy
import Awaken.Lib.Joined
import Awaken.Contract.Outbox
import Awaken.Stores.MemoryOutbox
import Awaken.Stores.MemoryOutbox.Claims
import Awaken.Stores.MemoryOutbox.Delivery
import Awaken.Server.ReplayBuffer
import Awaken.Server.Reconnect
import Awaken.Contract.EventStore
import Awaken.Contract.DurableEventSink
import Awaken.Contract.RunEndings
import Awaken.Lib.Broadcast
import Awaken.Stores.MemoryEventStore
import Awaken.Stores.MemoryEventStore.Log
import Awaken.Stores.MemoryEventStore.Subscriptions
import Awaken.Contract.VersionedRegistry
import Awaken.Stores.MemoryVersionedRegistry
import Awaken.Stores.MemoryVersionedRegistry.Versions
import Awaken.Stores.MemoryVersionedRegistry.Integrity
import Awaken.Stores.MemoryVersionedRegistry.PurgeRuns
import Awaken.Stores.FileVersionedRegistry
import Awaken.Stores.FileVersionedRegistry.Document
import Awaken.Stores.FileVersionedRegistry.Agreement
import Awaken.Stores.FileVersionedRegistry.Runs
import Awaken.Lib.Bracket
import Awaken.Contract.AgentEvent
import Awaken.Server.Protocols.Shared
import Awaken.Server.Protocols.AiSdkEncoder
import Awaken.Server.Protocols.AgUiEncoder
import Awaken.Server.Protocols.AiSdkBlocks
import Awaken.Server.Protocols.AgUiBlocks
import Awaken.Server.Protocols.StreamBrackets
import Awaken.Background.State
import Awaken.Background.SendMessageTool
import Awaken.Background.MessageDelivery
import Awaken.Lib.Keyed
import Awaken.Background.MessageLedger
import Awaken.Background.Manager
import Awaken.Background.Restart
import Awaken.Lib.Walk
import Awaken.Background.RunCancellation
import Awaken.Background.Lineage
import Awaken.Background.CancelledRuns
import Awaken.Background.CancelDescendants
import Awaken.Lib.MaxBy
import Awaken.ToolPattern.Matcher
import Awaken.Permission.Evaluation
import Awaken.Contract.Undeliverable
import Awaken.Lib.Utf8
import Awaken.Lib.Glob
import Awaken.ToolPattern.ToolId
import Awaken.LoopRunner.Materialize
import Awaken.Stores.MemoryStore.Append
import Awaken.LoopRunner.Checkpoint
import Awaken.LoopRunner.CheckpointRuns
import Awaken.Server.Mailbox.Activation
import Awaken.Server.Mailbox.PendingDelivery
import Awaken.Server.Mailbox.Calls
import Awaken.Stores.MemoryStore.RunTable
import Awaken.Server.Mailbox.FinishedRuns
import Awaken.Server.Mailbox.Preflight
import Awaken.Server.Mailbox.Steering
import Awaken.Server.Mailbox.SteeredMessages
import Awaken.State.ParallelValidation
import Awaken.State.CommitAtomicity
import Awaken.Stores.MemoryMailbox.Panics
import Awaken.Contract.DispatchAtomicity
import Awaken.Stores.MemoryMailbox.FailureAtomicity
import Awaken.LoopRunner.Resume
import Awaken.Context.Transform
import Awaken.Context.SplitPoint
import Awaken.Context.SystemMessages
import Awaken.Context.Truncation
import Awaken.Lib.CharBoundary
import Awaken.ToolPattern.Bytes
import Awaken.ToolPattern.Offsets
import Awaken.ToolPattern.EscapedWide
import Awaken.ToolPattern.Closing
import Awaken.ToolPattern.FieldForm
import Awaken.ToolPattern.Wildcards
import Awaken.Contract.DoneReason
import Awaken.Contract.PairedCalls
import Awaken.Contract.EffectiveView
import Awaken.Stores.MemoryStore.DeletedThreads
import Awaken.Context.Repair
import Awaken.Lib.JsonValue
import Awaken.Lib.Reading
import Awaken.Contract.PinnedRegistry
import Awaken.Contract.ContentHash
import Awaken.Context.Compaction
import Awaken.Context.CompactionSwap
import Awaken.Context.CompactionEvents
import Awaken.Context.CompactionRuns
import Awaken.Stores.MemoryProtocolReplayLog.Pages
import Awaken.Stores.NatsMailbox.Index
import Awaken.Stores.NatsMailbox.IndexHistory
import Awaken.Engine.ArgumentDeltas
import Awaken.LoopRunner.StreamingAccumulator
import Awaken.LoopRunner.InterruptedText
import Awaken.LoopRunner.StreamRecovery
import Awaken.LoopRunner.ResolvedCalls
import Awaken.LoopRunner.RecordedOutput
import Awaken.LoopRunner.RunHistory
import Awaken.LoopRunner.TrackedOutputs
import Awaken.LoopRunner.RunOutputs
import Awaken.Lib.Nesting
import Awaken.Contract.SkillAllowedTools
import Awaken.LoopRunner.CancelledResumes
import Awaken.Lib.DepthFirst
import Awaken.Contract.RegistryGraph
import Awaken.Contract.RegistryValidation
import Awaken.Stores.MemoryVersionedRegistry.FrozenManifests
import Awaken.Engine.CircuitBreaker
import Awaken.Engine.PoolRouter
import Awaken.Lib.Process
import Awaken.Engine.PoolExecutor
import Awaken.Engine.PoolSessions
import Awaken.Engine.PoolCalls
