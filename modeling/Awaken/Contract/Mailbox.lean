import Awaken.Lib.Text
import Awaken.Contract.Lifecycle

/-! Run dispatches and their transitions. A transition takes `&mut self`, so it returns its
result together with the dispatch it leaves behind, also when it fails. -/

namespace Awaken.Contract.Mailbox

open Awaken.Lib.Text Awaken.Contract.Lifecycle Awaken.Contract.Storage

inductive RunDispatchStatus where
  | queued
  | claimed
  | acked
  | cancelled
  | superseded
  | deadLetter
deriving DecidableEq

namespace RunDispatchStatus

def isTerminal : RunDispatchStatus → Bool
  | queued | claimed => false
  | acked | cancelled | superseded | deadLetter => true

def debug : RunDispatchStatus → String
  | queued => "Queued"
  | claimed => "Claimed"
  | acked => "Acked"
  | cancelled => "Cancelled"
  | superseded => "Superseded"
  | deadLetter => "DeadLetter"

end RunDispatchStatus

structure RunDispatchResult where
  runId : String
  dispatchInstanceId : String
  status : RunStatus
  termination : Option TerminationReason
  response : Option String
  error : Option String
deriving DecidableEq

structure RunDispatch where
  dispatchId : String
  threadId : String
  runId : String
  priority : Nat
  dedupeKey : Option String
  dispatchEpoch : Nat
  status : RunDispatchStatus
  availableAt : Nat
  attemptCount : Nat
  maxAttempts : Nat
  lastError : Option String
  claimToken : Option String
  claimedBy : Option String
  leaseUntil : Option Nat
  dispatchInstanceId : Option String
  runStatus : Option RunStatus
  termination : Option TerminationReason
  runResponse : Option String
  runError : Option String
  completedAt : Option Nat
  createdAt : Nat
  updatedAt : Nat
deriving DecidableEq

def requireNonEmpty (field value : String) : Except StorageError Unit :=
  if isBlank value then .error (.validation s!"{field} must not be empty") else .ok ()

/-- `u32::saturating_add(1)`. -/
def saturatingSucc (n : Nat) : Nat := min (n + 1) 4294967295

namespace RunDispatch

def queued (dispatchId threadId runId : String) (createdAt : Nat) : RunDispatch where
  dispatchId := dispatchId
  threadId := threadId
  runId := runId
  priority := 128
  dedupeKey := none
  dispatchEpoch := 0
  status := .queued
  availableAt := createdAt
  attemptCount := 0
  maxAttempts := 5
  lastError := none
  claimToken := none
  claimedBy := none
  leaseUntil := none
  dispatchInstanceId := none
  runStatus := none
  termination := none
  runResponse := none
  runError := none
  completedAt := none
  createdAt := createdAt
  updatedAt := createdAt

def clearClaimFields (self : RunDispatch) : RunDispatch :=
  { self with claimToken := none, claimedBy := none, leaseUntil := none }

def clearRuntimeProjection (self : RunDispatch) : RunDispatch :=
  { self with
    dispatchInstanceId := none, runStatus := none, termination := none, runResponse := none,
    runError := none }

def requireStatus (self : RunDispatch) (expected : RunDispatchStatus) (transition : String) :
    Except StorageError Unit :=
  if self.status ≠ expected then
    .error (.validation
      s!"dispatch '{self.dispatchId}' must be {expected.debug} before {transition}")
  else .ok ()

def validateIdentityAndRetry (self : RunDispatch) : Except StorageError Unit := do
  requireNonEmpty "dispatch_id" self.dispatchId
  requireNonEmpty "thread_id" self.threadId
  requireNonEmpty "run_id" self.runId
  if self.maxAttempts = 0 then
    throw (.validation s!"dispatch '{self.dispatchId}' max_attempts must be greater than zero")
  if self.attemptCount > self.maxAttempts then
    throw (.validation s!"dispatch '{self.dispatchId}' attempt_count must not exceed max_attempts")

def validateQueued (self : RunDispatch) : Except StorageError Unit := do
  if self.claimToken.isSome || self.claimedBy.isSome || self.leaseUntil.isSome then
    throw (.validation s!"Queued dispatch '{self.dispatchId}' must not carry claim fields")
  if self.completedAt.isSome then
    throw (.validation s!"Queued dispatch '{self.dispatchId}' must not carry completed_at")
  if self.dispatchInstanceId.isSome || self.runStatus.isSome || self.termination.isSome
      || self.runResponse.isSome || self.runError.isSome then
    throw (.validation s!"Queued dispatch '{self.dispatchId}' must not carry runtime result fields")

def validateForEnqueue (self : RunDispatch) : Except StorageError Unit := do
  self.validateIdentityAndRetry
  if self.status ≠ .queued then
    throw (.validation s!"enqueued dispatch '{self.dispatchId}' must start as Queued")
  self.validateQueued

def validateForPersist (self : RunDispatch) : Except StorageError Unit := do
  self.validateIdentityAndRetry
  match self.status with
  | .queued => self.validateQueued
  | .claimed =>
    if self.claimToken.all isBlank || self.claimedBy.all isBlank || self.leaseUntil.isNone then
      throw (.validation
        s!"Claimed dispatch '{self.dispatchId}' must carry claim_token, claimed_by, and lease_until")
  | status =>
    if self.claimToken.isSome || self.claimedBy.isSome || self.leaseUntil.isSome then
      throw (.validation
        s!"{status.debug} dispatch '{self.dispatchId}' must not carry active lease fields")
    if self.completedAt.isNone then
      throw (.validation s!"{status.debug} dispatch '{self.dispatchId}' must carry completed_at")

def fromPersistedParts (parts : RunDispatch) : Except StorageError RunDispatch := do
  parts.validateForPersist
  return parts

def prepareForEnqueue (self : RunDispatch) (dispatchEpoch : Nat) : RunDispatch :=
  { self with
    dispatchEpoch := dispatchEpoch, status := .queued, claimToken := none, claimedBy := none,
    leaseUntil := none, dispatchInstanceId := none, runStatus := none, termination := none,
    runResponse := none, runError := none, completedAt := none }

def transition (self : RunDispatch) (expected : RunDispatchStatus) (name : String)
    (update : RunDispatch → RunDispatch) : Except StorageError Unit × RunDispatch :=
  match self.requireStatus expected name with
  | .error e => (.error e, self)
  | .ok () => ((update self).validateForPersist, update self)

def claimedFor (consumerId claimToken : String) (leaseUntil now : Nat) (self : RunDispatch) :
    RunDispatch :=
  { self with
    status := .claimed, claimToken := some claimToken, claimedBy := some consumerId,
    leaseUntil := some leaseUntil, updatedAt := now }

def claim (self : RunDispatch) (consumerId claimToken : String) (leaseUntil now : Nat) :
    Except StorageError Unit × RunDispatch :=
  self.transition .queued "claim" (claimedFor consumerId claimToken leaseUntil now)

def leasedUntil (leaseUntil now : Nat) (self : RunDispatch) : RunDispatch :=
  { self with leaseUntil := some leaseUntil, updatedAt := now }

def extendLease (self : RunDispatch) (leaseUntil now : Nat) :
    Except StorageError Unit × RunDispatch :=
  self.transition .claimed "lease extension" (leasedUntil leaseUntil now)

def started (dispatchInstanceId : String) (now : Nat) (self : RunDispatch) : RunDispatch :=
  { self with
    dispatchInstanceId := some dispatchInstanceId, runStatus := some .running,
    termination := none, runResponse := none, runError := none, completedAt := none,
    updatedAt := now }

def recordDispatchStart (self : RunDispatch) (dispatchInstanceId : String) (now : Nat) :
    Except StorageError Unit × RunDispatch :=
  self.transition .claimed "recording runtime start" (started dispatchInstanceId now)

def finished (result : RunDispatchResult) (now : Nat) (self : RunDispatch) : RunDispatch :=
  { self with
    dispatchInstanceId := some result.dispatchInstanceId, runStatus := some result.status,
    termination := result.termination, runResponse := result.response, runError := result.error,
    completedAt := some now, updatedAt := now }

def recordRunResult (self : RunDispatch) (result : RunDispatchResult) (now : Nat) :
    Except StorageError Unit × RunDispatch :=
  match self.requireStatus .claimed "recording runtime result" with
  | .error e => (.error e, self)
  | .ok () =>
    if result.runId ≠ self.runId then
      (.error (.validation (s!"dispatch '{self.dispatchId}' result run_id '{result.runId}' " ++
        s!"does not match '{self.runId}'")), self)
    else ((self.finished result now).validateForPersist, self.finished result now)

def acked (now : Nat) (self : RunDispatch) : RunDispatch :=
  clearClaimFields { self with status := .acked, completedAt := some now, updatedAt := now }

def markAcked (self : RunDispatch) (now : Nat) : Except StorageError Unit × RunDispatch :=
  self.transition .claimed "ack" (acked now)

def cancelled (now : Nat) (self : RunDispatch) : RunDispatch :=
  clearClaimFields { self with status := .cancelled, completedAt := some now, updatedAt := now }

def markCancelled (self : RunDispatch) (now : Nat) : Except StorageError Unit × RunDispatch :=
  self.transition .queued "cancel" (cancelled now)

def superseded (now : Nat) (reason : Option String) (self : RunDispatch) : RunDispatch :=
  clearRuntimeProjection (clearClaimFields
    { self with
      status := .superseded, completedAt := some now, updatedAt := now,
      lastError := reason <|> self.lastError })

def markSuperseded (self : RunDispatch) (now : Nat) (reason : Option String) :
    Except StorageError Unit × RunDispatch :=
  self.transition .queued "supersede" (superseded now reason)

def atEpoch (epoch : Nat) (self : RunDispatch) : RunDispatch := { self with dispatchEpoch := epoch }

def markSupersededAtEpoch (self : RunDispatch) (now epoch : Nat) (reason : Option String) :
    Except StorageError Unit × RunDispatch :=
  let self := self.atEpoch epoch
  match self.status with
  | .queued => self.markSuperseded now reason
  | .claimed => ((self.superseded now reason).validateForPersist, self.superseded now reason)
  | _ => (.error (.validation
      s!"dispatch '{self.dispatchId}' must be Queued or Claimed before epoch supersede"), self)

def deadLettered (now : Nat) (error : String) (self : RunDispatch) : RunDispatch :=
  clearClaimFields
    { self with
      status := .deadLetter, lastError := some error, completedAt := some now, updatedAt := now }

def markDeadLetter (self : RunDispatch) (now : Nat) (error : String) :
    Except StorageError Unit × RunDispatch :=
  self.transition .claimed "dead letter" (deadLettered now error)

def nacked (now retryAt : Nat) (error : String) (self : RunDispatch) : RunDispatch :=
  let self := clearClaimFields
    { self with
      attemptCount := saturatingSucc self.attemptCount, lastError := some error, updatedAt := now }
  if self.attemptCount ≥ self.maxAttempts then
    { self with status := .deadLetter, completedAt := some now }
  else
    clearRuntimeProjection
      { self with status := .queued, availableAt := retryAt, completedAt := none }

def markNackResult (self : RunDispatch) (now retryAt : Nat) (error : String) :
    Except StorageError Unit × RunDispatch :=
  self.transition .claimed "nack" (nacked now retryAt error)

def expired (now : Nat) (maxAttemptsError : String) (self : RunDispatch) : RunDispatch :=
  let self := clearRuntimeProjection (clearClaimFields
    { self with
      attemptCount := saturatingSucc self.attemptCount, availableAt := now, updatedAt := now })
  if self.attemptCount ≥ self.maxAttempts then
    { self with
      status := .deadLetter, lastError := some maxAttemptsError, completedAt := some now }
  else { self with status := .queued, completedAt := none }

def markExpiredLease (self : RunDispatch) (now : Nat) (maxAttemptsError : String) :
    Except StorageError Unit × RunDispatch :=
  self.transition .claimed "lease expiration" (expired now maxAttemptsError)

end RunDispatch

structure MailboxInterrupt where
  newDispatchEpoch : Nat
  activeDispatch : Option RunDispatch
  supersededCount : Nat
deriving DecidableEq

structure MailboxInterruptDetails where
  newDispatchEpoch : Nat
  activeDispatch : Option RunDispatch
  supersededCount : Nat
  supersededDispatches : List RunDispatch
deriving DecidableEq

def MailboxInterruptDetails.intoSummary (self : MailboxInterruptDetails) : MailboxInterrupt where
  newDispatchEpoch := self.newDispatchEpoch
  activeDispatch := self.activeDispatch
  supersededCount := self.supersededCount

inductive MailboxOp where
  | enqueue (dispatch : RunDispatch)
  | claim (threadId consumerId : String) (leaseMs now limit : Nat) (token : String)
  | claimDispatch (dispatchId consumerId : String) (leaseMs now : Nat) (token : String)
  | ack (dispatchId claimToken : String) (now : Nat)
  | recordDispatchStart (dispatchId claimToken dispatchInstanceId : String) (now : Nat)
  | recordRunResult (dispatchId claimToken : String) (result : RunDispatchResult) (now : Nat)
  | nack (dispatchId claimToken : String) (retryAt : Nat) (error : String) (now : Nat)
  | deadLetter (dispatchId claimToken error : String) (now : Nat)
  | cancel (dispatchId : String) (now : Nat)
  | extendLease (dispatchId claimToken : String) (extensionMs now : Nat)
  | interrupt (threadId : String) (now : Nat)
  | interruptDetailed (threadId : String) (now : Nat)
  | currentDispatchEpoch (threadId : String)
  | supersedeClaimed (dispatchId claimToken : String) (now : Nat) (reason : String)
  | loadDispatch (dispatchId : String)
  | listDispatches (threadId : String) (statusFilter : Option (List RunDispatchStatus))
      (limit offset : Nat)
  | countDispatchesByStatus (status : RunDispatchStatus)
  | listTerminalDispatches (limit offset : Nat)
  | reclaimExpiredLeases (now limit : Nat)
  | purgeTerminal (olderThan : Nat)
  | queuedThreadIds
deriving DecidableEq

inductive MailboxResp where
  | unit
  | flag (value : Bool)
  | count (value : Nat)
  | dispatch (value : Option RunDispatch)
  | dispatches (value : List RunDispatch)
  | interrupt (value : MailboxInterrupt)
  | details (value : MailboxInterruptDetails)
  | threads (value : List String)
deriving DecidableEq

end Awaken.Contract.Mailbox
