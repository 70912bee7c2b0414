import Awaken.Server.Mailbox.PendingDelivery
import Awaken.Contract.Mailbox

namespace Awaken.Server.Mailbox

open Awaken.Lib Awaken.Lib.Text Awaken.Contract Awaken.Contract.Storage Awaken.Contract.Lifecycle
open Awaken.Contract.Mailbox Awaken.LoopRunner Awaken.Stores.MemoryStore

variable {J C : Type}

/-- The clock, the ids drawn, and the answer of the executor to a resolution. -/
structure Env (J C : Type) where
  now : Nat
  gen : Nat → String
  threadId : String
  runId : String
  dispatchId : String
  resolve : RunActivation J C → RegistryResolutionScope → Except String String

def resolveReplayableResolutionId (env : Env J C) (request : RunActivation J C)
    (resolutionIdHint : Option String) (fallbackResolutionId : String) :
    Except MailboxError String :=
  let scope := match resolutionIdHint with
    | some resolutionId => .pinned resolutionId
    | none => if request.hasRunResolver then .live else .pinned fallbackResolutionId
  (env.resolve request scope).mapError
    (.resolution "resolving persistent mailbox dispatch to a replayable run")

section Prepare

structure PrepareCall (J C : Type) where
  request : RunActivation J C
  threadId : String
  messages : List (Message J C)

def submission (env : Env J C) (background : Bool) (request : RunActivation J C) :
    Except MailboxError (PrepareCall J C) := do
  let request := request.normalizeMailboxRunMode background
  let (threadId, messages) ← validateRunInputs env.threadId request.intent.threadId request.messages
    (!request.seededDecisions.isEmpty)
  return ⟨(request.ensureDispatchIdHint env.dispatchId).2, threadId, messages⟩

def PrepareCall.reuse (self : PrepareCall J C) (waitingRunId : String) : PrepareCall J C :=
  { self with request := { self.request with
      intent := { self.request.intent with kind := .hitlResume waitingRunId }
      runMode := .resume } }

structure PreparedCall (J C : Type) where
  request : RunActivation J C
  threadId : String
  runId : String
  dispatchId : String
  messages : List (Message J C)
  previousRun : Option (RunRecord J)

def PrepareCall.named (self : PrepareCall J C) (env : Env J C) (previousRun : Option (RunRecord J)) :
    PreparedCall J C :=
  let named := (self.request.resumeRunId.or self.request.runIdHint).filter (!isBlank ·)
  let runId := named.getD env.runId
  let request :=
    if self.request.resumeRunId.isNone then { self.request with runIdHint := some runId }
    else self.request
  let (dispatchId, request) := request.ensureDispatchIdHint env.dispatchId
  { request := request
    threadId := self.threadId
    runId := runId
    dispatchId := dispatchId
    messages := normalizeMessageIds env.gen self.messages
    previousRun := previousRun }

namespace PreparedCall

variable (self : PreparedCall J C)

def withAgentId (request : RunActivation J C) (agentId : String) : RunActivation J C :=
  if request.intent.agentId.isNone then
    { request with intent := { request.intent with agentId := some agentId } }
  else request

def resolutionIdOf (env : Env J C) (existing : RunRecord J) (request : RunActivation J C) :
    Except MailboxError String :=
  match existing.resolutionId with
  | some id => .ok id
  | none => resolveReplayableResolutionId env request request.resolutionIdHint self.runId

def reopen (env : Env J C) (existing : RunRecord J) :
    Except MailboxError (RunActivation J C × RunRecord J × String) :=
  if existing.threadId ≠ self.threadId then
    .error (.validation (s!"run_id '{self.runId}' belongs to thread '{existing.threadId}', " ++
      s!"not '{self.threadId}'"))
  else if existing.status ≠ .created && !existing.isResumableWaiting then
    .error (.validation s!"run_id '{self.runId}' is not open for dispatch")
  else do
    let request := withAgentId self.request existing.agentId
    let resolutionId ← self.resolutionIdOf env existing request
    let record := { existing with
      resolutionId := some resolutionId
      request := none
      dispatchId := some self.dispatchId }
    return (request, record, resolutionId)

def inferredAgentId : String :=
  let previous := self.previousRun.bind fun run =>
    if run.status ≠ .created && !isBlank run.agentId then some run.agentId else none
  (self.request.intent.agentId.or previous).getD "default"

def create (env : Env J C) : Except MailboxError (RunActivation J C × RunRecord J × String) := do
  let inherited := (self.previousRun.filter (·.status ≠ .created)).bind (·.state)
  let request := withAgentId self.request self.inferredAgentId
  let resolutionId ←
    resolveReplayableResolutionId env request request.resolutionIdHint self.runId
  let record := { RunRecord.default with
    runId := self.runId
    threadId := self.threadId
    agentId := self.inferredAgentId
    parentRunId := request.trace.parentRunId
    resolutionId := some resolutionId
    status := .created
    dispatchId := some self.dispatchId
    transportRequestId := request.trace.transportRequestId
    createdAt := env.now / 1000
    updatedAt := env.now / 1000
    state := inherited }
  return (request, record, resolutionId)

def template (env : Env J C) :
    Option (RunRecord J) → Except MailboxError (RunActivation J C × RunRecord J × String)
  | some existing => self.reopen env existing
  | none => self.create env

end PreparedCall

end Prepare

section Mark

inductive TerminalMark where
  | cancelled (dispatch : RunDispatch)
  | deadLetter (dispatch : RunDispatch)

def TerminalMark.dispatch : TerminalMark → RunDispatch
  | .cancelled dispatch | .deadLetter dispatch => dispatch

def deadLetterReason (dispatch : RunDispatch) : String :=
  (dispatch.runError.or dispatch.lastError).getD "mailbox dispatch dead-lettered"

def TerminalMark.ended (self : TerminalMark) (message : String → J) (now : Nat)
    (run : RunRecord J) : RunRecord J :=
  let (reason, payload) : TerminationReason × Option J := match self with
    | .cancelled _ => (.cancelled, none)
    | .deadLetter dispatch =>
      (.error (deadLetterReason dispatch), some (message (deadLetterReason dispatch)))
  { run with
    status := .done
    terminationReason := some reason
    errorPayload := payload
    dispatchId := some self.dispatch.dispatchId
    sessionId := self.dispatch.dispatchInstanceId
    waiting := none
    finishedAt := some (now / 1000)
    updatedAt := now / 1000 }

def TerminalMark.skips (self : TerminalMark) (run : RunRecord J) : Bool :=
  run.threadId ≠ self.dispatch.threadId || run.status = .done

end Mark

inductive CallResult (J C : Type) where
  | prepared (request : RunActivation J C) (threadId runId : String)
  | marked (changed : Bool)
  | frozen (records : Option (List (MessageRecord J C)))

structure AppendJob (J C : Type) where
  threadId : String
  delta : List (Message J C)
  record : RunRecord J
  prepared : Option (RunActivation J C × String)
  result : CallResult J C

def AppendJob.attemptRecord (self : AppendJob J C) (now committedLength : Nat) : RunRecord J :=
  match self.prepared with
  | none => self.record
  | some (request, resolutionId) =>
    let (inputSnapshot, input) := buildRunInput self.threadId (committedLength + self.delta.length)
      (self.delta.filterMap (·.id))
    { self.record with
      activation := some (runActivationSnapshot request inputSnapshot (some resolutionId))
      input := some input
      updatedAt := now / 1000 }

def AppendJob.plan (self : AppendJob J C) (now : Nat) (committed : List (Message J C)) :
    ThreadCommit J C where
  threadId := self.threadId
  messageDelta := self.delta
  expectedMessageCount := some committed.length
  runProjection := self.attemptRecord now committed.length

def maxAttempts : Nat := 8

def boundaryDebug : DeliveryBoundary → String
  | .interrupt => "Interrupt"
  | .nextStep => "NextStep"
  | .onNaturalEnd => "OnNaturalEnd"
  | .resumeInput => "ResumeInput"
  | .newRun => "NewRun"

inductive CallPhase (J C : Type) where
  | routing (call : PrepareCall J C)
  | opening (call : PrepareCall J C) (openRunId : String)
  | reusing (call : PrepareCall J C)
  | preceding (call : PrepareCall J C)
  | loading (call : PreparedCall J C)
  | marking (mark : TerminalMark)
  | freezing (attempts : Nat) (job : FreezeJob J C) (result : Option (CallResult J C))
  | selecting (attempts : Nat) (job : FreezeJob J C) (result : Option (CallResult J C))
      (committed : List (Message J C))
  | consuming (attempts : Nat) (job : FreezeJob J C) (result : Option (CallResult J C))
      (plan : FreezePlan)
  | appending (attempts : Nat) (job : AppendJob J C)
  | committing (attempts : Nat) (job : AppendJob J C) (committed : List (Message J C))
  | returned (result : Except MailboxError (CallResult J C))

namespace CallPhase

def prepareRun (hasPendingStore : Bool) (call : PreparedCall J C) (request : RunActivation J C)
    (record : RunRecord J) (resolutionId : String) : CallPhase J C :=
  let result := .prepared request call.threadId call.runId
  let boundary := if hasPendingStore && !call.messages.isEmpty then dispatchBoundary request else none
  match boundary with
  | some boundary =>
    .freezing maxAttempts {
      snapshotTemplate := runActivationSnapshot request ⟨"", none, [], [], none, none⟩
        (some resolutionId)
      threadId := call.threadId
      boundary := boundary
      runId := call.runId
      record := record
      append := some (call.messages, deliveryModeForDispatch boundary call.runId) } (some result)
  | none =>
    .appending maxAttempts ⟨call.threadId, call.messages, record, some (request, resolutionId), result⟩

def nothingEligible (job : FreezeJob J C) : MailboxError :=
  .internal (s!"pending {boundaryDebug job.boundary} freeze found no eligible messages for " ++
    s!"thread '{job.threadId}'")

def freezeExhausted (job : FreezeJob J C) : MailboxError :=
  .internal (s!"pending {boundaryDebug job.boundary} freeze exhausted {maxAttempts} retries under " ++
    s!"version conflict for thread '{job.threadId}'")

def appendExhausted (job : AppendJob J C) : MailboxError :=
  let what := if job.prepared.isSome then "committed append" else "terminal dispatch run checkpoint"
  .internal (s!"{what} exhausted {maxAttempts} retries under version conflict for thread " ++
    s!"'{job.threadId}'")

def retries : StorageError → Bool
  | .versionConflict _ _ | .pendingSelectionConflict _ _ => true
  | _ => false

variable [DecidableEq J]

def advance (hasPendingStore : Bool) (message : String → J) (env : Env J C)
    (store : InMemoryStore J C) : CallPhase J C → InMemoryStore J C × CallPhase J C
  | .routing call =>
    if call.request.resumeRunId.isSome || call.request.runIdHint.isSome then (store, .preceding call)
    else
      match (store.loadThread call.threadId).bind (·.openRunId) with
      | some openRunId => (store, .opening call openRunId)
      | none => (store, .reusing call)
  | .opening call openRunId =>
    match store.loadRun openRunId with
    | some run =>
      if run.threadId = call.threadId && run.isResumableWaiting then
        (store, .preceding (call.reuse run.runId))
      else (store, .reusing call)
    | none => (store, .reusing call)
  | .reusing call =>
    match store.latestRun call.threadId with
    | some run =>
      if run.isResumableWaiting then (store, .preceding (call.reuse run.runId))
      else (store, .preceding call)
    | none => (store, .preceding call)
  | .preceding call => (store, .loading (call.named env (store.latestRun call.threadId)))
  | .loading call =>
    match call.template env (store.loadRun call.runId) with
    | .error e => (store, .returned (.error e))
    | .ok (request, record, resolutionId) =>
      (store, prepareRun hasPendingStore call request record resolutionId)
  | .marking mark =>
    match store.loadRun mark.dispatch.runId with
    | none => (store, .returned (.ok (.marked false)))
    | some run =>
      if mark.skips run then (store, .returned (.ok (.marked false)))
      else
        (store, .appending maxAttempts
          ⟨mark.dispatch.threadId, [], mark.ended message env.now run, none, .marked true⟩)
  | .freezing 0 job _ => (store, .returned (.error (freezeExhausted job)))
  | .freezing (attempts + 1) job result =>
    match store.loadCommittedMessages job.threadId with
    | .error e => (store, .returned (.error (.store e)))
    | .ok log => (store, .selecting attempts job result (log.getD []))
  | .selecting attempts job result committed =>
    match store.loadPendingMessageRecords job.threadId with
    | .error e => (store, .returned (.error (.store e)))
    | .ok pending =>
      match job.plan env.gen env.now committed pending with
      | .error e => (store, .returned (.error e))
      | .ok none =>
        (store, .returned (if result.isSome then .error (nothingEligible job) else .ok (.frozen none)))
      | .ok (some plan) => (store, .consuming attempts job result plan)
  | .consuming attempts job result plan =>
    match job.commit store env.gen env.now plan with
    | (.ok records, store) => (store, .returned (.ok (result.getD (.frozen (some records)))))
    | (.error e, store) =>
      if retries e then (store, .freezing attempts job result)
      else (store, .returned (.error (.store e)))
  | .appending 0 job => (store, .returned (.error (appendExhausted job)))
  | .appending (attempts + 1) job =>
    match store.loadCommittedMessages job.threadId with
    | .error e => (store, .returned (.error (.store e)))
    | .ok log => (store, .committing attempts job (log.getD []))
  | .committing attempts job committed =>
    match commitCheckpoint store env.now (job.plan env.now committed) with
    | (.ok (), store) => (store, .returned (.ok job.result))
    | (.error e, store) =>
      if e.isConflict then (store, .appending attempts job)
      else (store, .returned (.error (.commitCheckpoint e)))
  | .returned result => (store, .returned result)

def copy : CallPhase J C → Option (RunRecord J)
  | .freezing _ job _ | .selecting _ job _ _ | .consuming _ job _ _ => some job.record
  | .appending _ job | .committing _ job _ => some job.record
  | _ => none

end CallPhase

end Awaken.Server.Mailbox
