import Awaken.Lib.Text
import Awaken.Contract.Lifecycle
import Awaken.State.Persistence
import Awaken.Contract.MessageQuery

namespace Awaken.Contract

open Awaken.Lib.Text Awaken.State Awaken.Contract.Storage Awaken.Contract.Lifecycle

variable {J : Type}

inductive RunKind where
  | newIntent
  | hitlResume (runId : String)
  | continuationFromRun (runId : String)
deriving DecidableEq

structure RunIntent where
  agentId : Option String
  threadId : String
  kind : RunKind
deriving DecidableEq

structure RunInputSnapshot where
  threadId : String
  range : Option MessageSeqRange
  triggerMessageIds : List String
  selectedMessageIds : List String
  contextPolicy : Option String
  compactedSnapshotId : Option String
deriving DecidableEq

structure RunTraceContext where
  parentRunId : Option String
  parentThreadId : Option String
  dispatchId : Option String
  sessionId : Option String
  transportRequestId : Option String
  correlationId : Option String
deriving DecidableEq

structure RunActivationSnapshot where
  intent : RunIntent
  input : RunInputSnapshot
  trace : RunTraceContext
  seededDecisions : List String
  resolutionId : Option String
deriving DecidableEq

structure RunRequestSnapshot where
  parentThreadId : Option String
deriving DecidableEq

structure RunMessageInput where
  threadId : String
  range : Option MessageSeqRange
  triggerMessageIds : List String
  selectedMessageIds : List String
  contextPolicy : Option String
  compactedSnapshotId : Option String
deriving DecidableEq

structure RunMessageOutput where
  threadId : String
  range : Option MessageSeqRange
  messageIds : List String
deriving DecidableEq

inductive WaitingReason where
  | toolPermission
  | userInput
  | backgroundTasks
  | externalEvent
  | rateLimit
  | manualPause
deriving DecidableEq

structure RunWaitingState where
  reason : WaitingReason
deriving DecidableEq

structure RunOutcome (J : Type) where
  terminationReason : TerminationReason
  finalOutput : Option String
  errorPayload : Option J
deriving DecidableEq

structure RunRecord (J : Type) where
  runId : String
  threadId : String
  agentId : String
  parentRunId : Option String
  resolutionId : Option String
  activation : Option RunActivationSnapshot
  request : Option RunRequestSnapshot
  input : Option RunMessageInput
  output : Option RunMessageOutput
  status : RunStatus
  terminationReason : Option TerminationReason
  finalOutput : Option String
  errorPayload : Option J
  dispatchId : Option String
  sessionId : Option String
  transportRequestId : Option String
  waiting : Option RunWaitingState
  outcome : Option (RunOutcome J)
  createdAt : Nat
  startedAt : Option Nat
  finishedAt : Option Nat
  updatedAt : Nat
  steps : Nat
  inputTokens : Nat
  outputTokens : Nat
  state : Option (PersistedState J)

namespace RunRecord

def default : RunRecord J where
  runId := ""
  threadId := ""
  agentId := ""
  parentRunId := none
  resolutionId := none
  activation := none
  request := none
  input := none
  output := none
  status := .running
  terminationReason := none
  finalOutput := none
  errorPayload := none
  dispatchId := none
  sessionId := none
  transportRequestId := none
  waiting := none
  outcome := none
  createdAt := 0
  startedAt := none
  finishedAt := none
  updatedAt := 0
  steps := 0
  inputTokens := 0
  outputTokens := 0
  state := none

def waitingReason (self : RunRecord J) : Option WaitingReason :=
  if self.status ≠ .waiting then none else self.waiting.map (·.reason)

def isResumableWaiting (self : RunRecord J) : Bool := self.waitingReason.isSome

end RunRecord

def invalidRun (text : String) : Except StorageError Unit := .error (.validation text)

def requireNonEmpty (field value : String) : Except StorageError Unit :=
  if isBlank value then invalidRun s!"{field} must not be empty" else .ok ()

def requireOptionalNonEmpty (field : String) (value : Option String) : Except StorageError Unit :=
  match value with
  | some value => requireNonEmpty field value
  | none => .ok ()

def requireAllNonEmpty (field : Nat → String) (idx : Nat) : List String → Except StorageError Unit
  | [] => .ok ()
  | id :: ids => do
    requireNonEmpty (field idx) id
    requireAllNonEmpty field (idx + 1) ids

def validateMessageIdList (field : String) (ids : List String) : Except StorageError Unit :=
  requireAllNonEmpty (fun idx => s!"{field}[{idx}]") 0 ids

def validateSeqRange (field : String) (range : Option MessageSeqRange) : Except StorageError Unit :=
  match range with
  | some range =>
    if range.fromSeq = 0 ∨ range.fromSeq > range.toSeq then
      invalidRun s!"{field} range must be non-empty and 1-based"
    else .ok ()
  | none => .ok ()

def RunKind.validate : RunKind → Except StorageError Unit
  | .newIntent => .ok ()
  | .hitlResume runId => requireNonEmpty "hitl resume run_id" runId
  | .continuationFromRun runId => requireNonEmpty "continuation run_id" runId

def RunIntent.validate (self : RunIntent) : Except StorageError Unit := do
  requireNonEmpty "run intent thread_id" self.threadId
  requireOptionalNonEmpty "run intent agent_id" self.agentId
  self.kind.validate

def RunInputSnapshot.validate (self : RunInputSnapshot) : Except StorageError Unit := do
  requireNonEmpty "run input snapshot thread_id" self.threadId
  validateSeqRange "run input snapshot" self.range
  validateMessageIdList "run input snapshot trigger_message_ids" self.triggerMessageIds
  validateMessageIdList "run input snapshot selected_message_ids" self.selectedMessageIds
  requireOptionalNonEmpty "run input snapshot context_policy" self.contextPolicy
  requireOptionalNonEmpty "run input snapshot compacted_snapshot_id" self.compactedSnapshotId

def RunTraceContext.validate (self : RunTraceContext) : Except StorageError Unit := do
  requireOptionalNonEmpty "run trace parent_run_id" self.parentRunId
  requireOptionalNonEmpty "run trace parent_thread_id" self.parentThreadId
  requireOptionalNonEmpty "run trace dispatch_id" self.dispatchId
  requireOptionalNonEmpty "run trace session_id" self.sessionId
  requireOptionalNonEmpty "run trace transport_request_id" self.transportRequestId
  requireOptionalNonEmpty "run trace correlation_id" self.correlationId

def RunActivationSnapshot.validateThread (self : RunActivationSnapshot) :
    Except StorageError Unit :=
  if self.intent.threadId ≠ self.input.threadId then
    invalidRun (s!"run activation intent.thread_id '{self.intent.threadId}' must match " ++
      s!"input.thread_id '{self.input.threadId}'")
  else .ok ()

def RunActivationSnapshot.validate (self : RunActivationSnapshot) : Except StorageError Unit := do
  self.intent.validate
  self.input.validate
  self.trace.validate
  self.validateThread
  requireAllNonEmpty (fun idx => s!"run activation seeded_decisions[{idx}].call_id") 0
    self.seededDecisions
  requireOptionalNonEmpty "run activation resolution_id" self.resolutionId

namespace RunRecord

variable [DecidableEq J]

def validateActivation (self : RunRecord J) : Except StorageError Unit :=
  match self.activation with
  | some activation => do
    activation.validate
    if activation.intent.threadId ≠ self.threadId then
      invalidRun (s!"run activation thread_id '{activation.intent.threadId}' must match " ++
        s!"run thread_id '{self.threadId}'")
    else .ok ()
  | none => .ok ()

def validateInput (self : RunRecord J) : Except StorageError Unit :=
  match self.input with
  | some input =>
    if input.threadId ≠ self.threadId then
      invalidRun
        s!"run input thread_id '{input.threadId}' must match run thread_id '{self.threadId}'"
    else validateSeqRange "run input" input.range
  | none => .ok ()

def validateOutputLength (range : Option MessageSeqRange) (messageIds : List String) :
    Except StorageError Unit :=
  match range with
  | some range =>
    let length := range.toSeq - range.fromSeq + 1
    if length ≠ messageIds.length then
      invalidRun (s!"run output message_ids length {messageIds.length} must match range length " ++
        s!"{length}")
    else .ok ()
  | none => .ok ()

def validateOutput (self : RunRecord J) : Except StorageError Unit :=
  match self.output with
  | some output =>
    if output.threadId ≠ self.threadId then
      invalidRun
        s!"run output thread_id '{output.threadId}' must match run thread_id '{self.threadId}'"
    else do
      validateSeqRange "run output" output.range
      validateOutputLength output.range output.messageIds
  | none => .ok ()

def validateUnfinished (self : RunRecord J) (name : String) : Except StorageError Unit :=
  if self.outcome.isSome then
    invalidRun s!"{name} run '{self.runId}' must not carry terminal outcome"
  else if self.finishedAt.isSome then
    invalidRun s!"{name} run '{self.runId}' must not carry finished_at"
  else .ok ()

def validateActive (self : RunRecord J) (name : String) : Except StorageError Unit :=
  if self.waiting.isSome then
    invalidRun s!"{name} run '{self.runId}' must not carry waiting state"
  else self.validateUnfinished name

def validateOutcome (self : RunRecord J) (outcome : RunOutcome J) : Except StorageError Unit :=
  if self.terminationReason.any (fun reason => reason ≠ outcome.terminationReason) then
    invalidRun
      s!"done run '{self.runId}' termination_reason must match outcome.termination_reason"
  else if self.finalOutput.any (fun output => some output ≠ outcome.finalOutput) then
    invalidRun s!"done run '{self.runId}' final_output must match outcome.final_output"
  else if self.errorPayload.any (fun payload => some payload ≠ outcome.errorPayload) then
    invalidRun s!"done run '{self.runId}' error_payload must match outcome.error_payload"
  else .ok ()

def validateDone (self : RunRecord J) : Except StorageError Unit :=
  if self.waiting.isSome then
    invalidRun s!"done run '{self.runId}' must not carry waiting state"
  else if self.finishedAt.isNone then
    invalidRun s!"done run '{self.runId}' must carry finished_at"
  else
    match self.outcome with
    | some outcome => self.validateOutcome outcome
    | none => .ok ()

def validateStatus (self : RunRecord J) : Except StorageError Unit :=
  match self.status with
  | .created => self.validateActive "Created"
  | .running => self.validateActive "Running"
  | .waiting =>
    if self.waiting.isNone then
      invalidRun s!"waiting run '{self.runId}' must carry waiting state"
    else self.validateUnfinished "waiting"
  | .done => self.validateDone

def validateForPersist (self : RunRecord J) : Except StorageError Unit := do
  requireNonEmpty "run_id" self.runId
  requireNonEmpty "thread_id" self.threadId
  requireNonEmpty "agent_id" self.agentId
  self.validateActivation
  self.validateInput
  self.validateOutput
  self.validateStatus

end RunRecord

end Awaken.Contract
