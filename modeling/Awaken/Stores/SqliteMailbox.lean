import Mathlib.Algebra.Group.Int.Defs
import Mathlib.Algebra.Group.Nat.Defs
import Mathlib.Data.List.Sort
import Awaken.Lib.Table
import Awaken.Lib.Run
import Awaken.Stores.MailboxState

/-! The SQLite mailbox store. A database table is a table by primary key whose order stands for
the order in which the engine visits the rows; a step may reorder the rows before it runs. Integer
columns are signed and 64 bits wide, and numbers are stored and read back with `as` casts. -/

namespace Awaken.Stores.SqliteMailbox

open Awaken.Lib Awaken.Contract.Lifecycle Awaken.Contract.Mailbox Awaken.Contract.Storage
open Awaken.Stores.MailboxState

structure Codec (J : Type) where
  toJson : TerminationReason → J
  fromJson : J → Except String TerminationReason
  display : StorageError → String

/-- `as i64` on a `u64`: the numbers from `2 ^ 63` on become negative. -/
def asI64 (n : Nat) : Int :=
  if n % 2 ^ 64 < 2 ^ 63 then (n % 2 ^ 64 : Nat) else (n % 2 ^ 64 : Nat) - 2 ^ 64

def asU64 (i : Int) : Nat := (i % 2 ^ 64).toNat

def asU32 (i : Int) : Nat := (i % 2 ^ 32).toNat

def asU8 (i : Int) : Nat := (i % 2 ^ 8).toNat

structure Row (J : Type) where
  dispatchId : String
  threadId : String
  runId : String
  priority : Int
  dedupeKey : Option String
  dispatchEpoch : Int
  status : String
  availableAt : Int
  attemptCount : Int
  maxAttempts : Int
  lastError : Option String
  claimToken : Option String
  claimedBy : Option String
  leaseUntil : Option Int
  dispatchInstanceId : Option String
  runStatus : Option String
  termination : Option J
  runResponse : Option String
  runError : Option String
  completedAt : Option Int
  createdAt : Int
  updatedAt : Int
deriving DecidableEq

structure SqliteMailboxStore (J : Type) where
  runDispatches : Table String (Row J)
  threadDispatchEpochs : Table String Int

variable {J : Type}

def statusToStr : RunDispatchStatus → String
  | .queued => "Queued"
  | .claimed => "Claimed"
  | .acked => "Acked"
  | .cancelled => "Cancelled"
  | .superseded => "Superseded"
  | .deadLetter => "DeadLetter"

def strToStatus (s : String) : Except StorageError RunDispatchStatus :=
  if s = "Queued" then .ok .queued
  else if s = "Claimed" then .ok .claimed
  else if s = "Acked" then .ok .acked
  else if s = "Cancelled" then .ok .cancelled
  else if s = "Superseded" then .ok .superseded
  else if s = "DeadLetter" then .ok .deadLetter
  else .error (.io s!"unknown RunDispatchStatus: {s}")

def runStatusToStr : RunStatus → String
  | .created => "created"
  | .running => "running"
  | .waiting => "waiting"
  | .done => "done"

def strToRunStatus (s : String) : Except StorageError RunStatus :=
  if s = "created" then .ok .created
  else if s = "running" then .ok .running
  else if s = "waiting" then .ok .waiting
  else if s = "done" then .ok .done
  else .error (.io s!"unknown RunStatus: {s}")

def column {α β : Type} (read : α → Except StorageError β) : Option α → Except StorageError (Option β)
  | none => .ok none
  | some a => (read a).map some

def rowToDispatch (codec : Codec J) (row : Row J) : Except StorageError RunDispatch := do
  let status ← strToStatus row.status
  let runStatus ← column strToRunStatus row.runStatus
  let termination ← column (fun j => (codec.fromJson j).mapError .serialization) row.termination
  RunDispatch.fromPersistedParts
    { dispatchId := row.dispatchId
      threadId := row.threadId
      runId := row.runId
      priority := asU8 row.priority
      dedupeKey := row.dedupeKey
      dispatchEpoch := asU64 row.dispatchEpoch
      status := status
      availableAt := asU64 row.availableAt
      attemptCount := asU32 row.attemptCount
      maxAttempts := asU32 row.maxAttempts
      lastError := row.lastError
      claimToken := row.claimToken
      claimedBy := row.claimedBy
      leaseUntil := row.leaseUntil.map asU64
      dispatchInstanceId := row.dispatchInstanceId
      runStatus := runStatus
      termination := termination
      runResponse := row.runResponse
      runError := row.runError
      completedAt := row.completedAt.map asU64
      createdAt := asU64 row.createdAt
      updatedAt := asU64 row.updatedAt }

def limited {α : Type} (limit : Nat) (rows : List α) : List α :=
  if asI64 limit < 0 then rows else rows.take (asI64 limit).toNat

def servedBefore (a b : Row J) : Bool :=
  a.priority < b.priority || (a.priority = b.priority && a.createdAt ≤ b.createdAt)

def endedBefore (a b : Row J) : Bool :=
  a.updatedAt < b.updatedAt || (a.updatedAt = b.updatedAt &&
    (a.createdAt < b.createdAt || (a.createdAt = b.createdAt && a.dispatchId ≤ b.dispatchId)))

def terminalStatuses : List String := ["Acked", "Cancelled", "Superseded", "DeadLetter"]

def setSuperseded (now : Nat) (reason : String) (row : Row J) : Row J :=
  { row with
    status := "Superseded", lastError := some reason, claimToken := none, claimedBy := none,
    leaseUntil := none, completedAt := some (asI64 now), updatedAt := asI64 now }

def setSupersededAtEpoch (epoch : Int) (now : Nat) (reason : String) (row : Row J) : Row J :=
  { setSuperseded now reason row with dispatchEpoch := epoch }

def setClaimed (token consumerId : String) (leaseUntil now : Nat) (row : Row J) : Row J :=
  { row with
    status := "Claimed", claimToken := some token, claimedBy := some consumerId,
    leaseUntil := some (asI64 leaseUntil), updatedAt := asI64 now }

def setAcked (now : Nat) (row : Row J) : Row J :=
  { row with
    status := "Acked", claimToken := none, claimedBy := none, leaseUntil := none,
    completedAt := some (asI64 now), updatedAt := asI64 now }

def setStarted (dispatchInstanceId : String) (now : Nat) (row : Row J) : Row J :=
  { row with
    dispatchInstanceId := some dispatchInstanceId, runStatus := some (runStatusToStr .running),
    termination := none, runResponse := none, runError := none, completedAt := none,
    updatedAt := asI64 now }

def setFinished (codec : Codec J) (result : RunDispatchResult) (now : Nat) (row : Row J) : Row J :=
  { row with
    dispatchInstanceId := some result.dispatchInstanceId,
    runStatus := some (runStatusToStr result.status),
    termination := result.termination.map codec.toJson, runResponse := result.response,
    runError := result.error, completedAt := some (asI64 now), updatedAt := asI64 now }

def setDeadLettered (error : String) (now : Nat) (row : Row J) : Row J :=
  { row with
    status := "DeadLetter", lastError := some error, claimToken := none, claimedBy := none,
    leaseUntil := none, completedAt := some (asI64 now), updatedAt := asI64 now }

def setCancelled (now : Nat) (row : Row J) : Row J :=
  { row with
    status := "Cancelled", claimToken := none, claimedBy := none, leaseUntil := none,
    completedAt := some (asI64 now), updatedAt := asI64 now }

def setLease (leaseUntil now : Nat) (row : Row J) : Row J :=
  { row with leaseUntil := some (asI64 leaseUntil), updatedAt := asI64 now }

def setNackDeadLettered (attempt : Nat) (error : String) (now : Nat) (row : Row J) : Row J :=
  { row with
    status := "DeadLetter", attemptCount := attempt, lastError := some error, claimToken := none,
    claimedBy := none, leaseUntil := none, completedAt := some (asI64 now),
    updatedAt := asI64 now }

def setNackRequeued (attempt : Nat) (error : String) (retryAt now : Nat) (row : Row J) : Row J :=
  { row with
    status := "Queued", attemptCount := attempt, lastError := some error,
    availableAt := asI64 retryAt, claimToken := none, claimedBy := none, leaseUntil := none,
    dispatchInstanceId := none, runStatus := none, termination := none, runResponse := none,
    runError := none, updatedAt := asI64 now }

def setReclaimRequeued (attempt now : Nat) (row : Row J) : Row J :=
  { row with
    status := "Queued", attemptCount := attempt, claimToken := none, claimedBy := none,
    leaseUntil := none, dispatchInstanceId := none, runStatus := none, termination := none,
    runResponse := none, runError := none, updatedAt := asI64 now }

def setReclaimDeadLettered (attempt now : Nat) (row : Row J) : Row J :=
  { row with
    status := "DeadLetter", attemptCount := attempt, claimToken := none, claimedBy := none,
    leaseUntil := none, dispatchInstanceId := none, runStatus := none, termination := none,
    runResponse := none, runError := none, completedAt := some (asI64 now),
    updatedAt := asI64 now }

def insertedRow (dispatchEpoch : Int) (dispatch : RunDispatch) : Row J where
  dispatchId := dispatch.dispatchId
  threadId := dispatch.threadId
  runId := dispatch.runId
  priority := dispatch.priority
  dedupeKey := dispatch.dedupeKey
  dispatchEpoch := dispatchEpoch
  status := statusToStr .queued
  availableAt := asI64 dispatch.availableAt
  attemptCount := dispatch.attemptCount
  maxAttempts := dispatch.maxAttempts
  lastError := dispatch.lastError
  claimToken := dispatch.claimToken
  claimedBy := dispatch.claimedBy
  leaseUntil := dispatch.leaseUntil.map asI64
  dispatchInstanceId := none
  runStatus := none
  termination := none
  runResponse := none
  runError := none
  completedAt := none
  createdAt := asI64 dispatch.createdAt
  updatedAt := asI64 dispatch.updatedAt

namespace SqliteMailboxStore

def new : SqliteMailboxStore J := ⟨Table.empty, Table.empty⟩

def get (self : SqliteMailboxStore J) (dispatchId : String) : Option (Row J) :=
  self.runDispatches.get dispatchId

/-- `UPDATE run_dispatches SET … WHERE dispatch_id = …`. -/
def update (self : SqliteMailboxStore J) (dispatchId : String) (set : Row J → Row J) :
    SqliteMailboxStore J :=
  { self with runDispatches := self.runDispatches.modify dispatchId set }

/-- `UPDATE run_dispatches SET … WHERE …`. -/
def updateWhere (self : SqliteMailboxStore J) (p : Row J → Bool) (set : Row J → Row J) :
    SqliteMailboxStore J :=
  { self with runDispatches := self.runDispatches.mapValues (fun _ row =>
      if p row then set row else row) }

def currentEpochForConn (self : SqliteMailboxStore J) (threadId : String) : Nat :=
  asU64 ((self.threadDispatchEpochs.get threadId).getD 0)

/-- `SELECT * … WHERE dispatch_id = …`, converted; `label` starts the message of a failure. -/
def load (codec : Codec J) (self : SqliteMailboxStore J) (label dispatchId : String) :
    Except StorageError (Option RunDispatch) :=
  match self.get dispatchId with
  | none => .ok none
  | some row =>
    match rowToDispatch codec row with
    | .ok dispatch => .ok (some dispatch)
    | .error e =>
      let e := codec.display e
      .error (.io s!"{label}: {e}")

def reload (codec : Codec J) (self : SqliteMailboxStore J) (label dispatchId : String) :
    Except StorageError RunDispatch :=
  match self.load codec label dispatchId with
  | .ok (some dispatch) => .ok dispatch
  | .ok none => .error (.io s!"{label}: Query returned no rows")
  | .error e => .error e

/-- The rows of a SELECT, converted one after another. -/
def collect (codec : Codec J) (label : String) : List (Row J) → Except StorageError (List RunDispatch)
  | [] => .ok []
  | row :: rows =>
    match rowToDispatch codec row with
    | .error e =>
      let e := codec.display e
      .error (.io s!"{label}: {e}")
    | .ok dispatch => (collect codec label rows).map (dispatch :: ·)

def isStillClaimed (claimToken : String) (row : Row J) : Bool :=
  row.status = "Claimed" && row.claimToken = some claimToken

def supersedeClaimedLoaded (codec : Codec J) (self : SqliteMailboxStore J) (dispatch : RunDispatch)
    (claimToken : String) (now : Nat) (reason : String) :
    Except StorageError (Option RunDispatch) × SqliteMailboxStore J :=
  if dispatch.status ≠ .claimed then (.ok none, self)
  else if dispatch.claimToken ≠ some claimToken then (.error (.versionConflict 0 1), self)
  else
    let terminalEpoch := max dispatch.dispatchEpoch (self.currentEpochForConn dispatch.threadId)
    if (self.get dispatch.dispatchId).any (isStillClaimed claimToken) then
      let self := self.update dispatch.dispatchId
        (setSupersededAtEpoch (asI64 terminalEpoch) now reason)
      (self.load codec "supersede claimed reload" dispatch.dispatchId, self)
    else (.ok none, self)

def supersedeStaleQueuedForThread (self : SqliteMailboxStore J) (threadId : String) (now : Nat) :
    SqliteMailboxStore J :=
  let currentEpoch := self.currentEpochForConn threadId
  self.updateWhere
    (fun row => row.threadId = threadId && row.status = "Queued" &&
      row.dispatchEpoch < asI64 currentEpoch)
    (setSupersededAtEpoch (asI64 currentEpoch) now reasonQueuedSupersededByEpoch)

def supersedeStaleClaimedIfNeeded (codec : Codec J) (self : SqliteMailboxStore J)
    (dispatch : RunDispatch) (claimToken : String) (now : Nat) (reason : String) :
    Except StorageError Bool × SqliteMailboxStore J :=
  if dispatch.dispatchEpoch ≥ self.currentEpochForConn dispatch.threadId then (.ok false, self)
  else
    let r := self.supersedeClaimedLoaded codec dispatch claimToken now reason
    (r.1.map (fun _ => true), r.2)

def isDuplicate (self : SqliteMailboxStore J) (dispatch : RunDispatch) (dedupeKey : String) : Bool :=
  self.runDispatches.values.any (fun row =>
    row.threadId = dispatch.threadId && row.dedupeKey = some dedupeKey &&
      decide (row.status ∉ terminalStatuses))

/-- `INSERT … ON CONFLICT (thread_id) DO NOTHING`. -/
def touchThread (self : SqliteMailboxStore J) (threadId : String) : SqliteMailboxStore J :=
  if (self.threadDispatchEpochs.get threadId).isSome then self
  else { self with threadDispatchEpochs := self.threadDispatchEpochs.insert threadId 0 }

def insertDispatch (self : SqliteMailboxStore J) (dispatch : RunDispatch) :
    Outcome StorageError Unit × SqliteMailboxStore J :=
  let self := self.touchThread dispatch.threadId
  let dispatchEpoch := (self.threadDispatchEpochs.get dispatch.threadId).getD 0
  if (self.get dispatch.dispatchId).isSome then
    (.err (.io "insert dispatch: UNIQUE constraint failed: run_dispatches.dispatch_id"), self)
  else
    (.ok (), { self with runDispatches :=
      self.runDispatches.insert dispatch.dispatchId (insertedRow dispatchEpoch dispatch) })

def enqueue (self : SqliteMailboxStore J) (dispatch : RunDispatch) :
    Outcome StorageError Unit × SqliteMailboxStore J :=
  match dispatch.validateForEnqueue with
  | .error e => (.err e, self)
  | .ok () =>
    match dispatch.dedupeKey with
    | some dk =>
      if self.isDuplicate dispatch dk then (.err (.alreadyExists s!"dedupe_key={dk}"), self)
      else self.insertDispatch dispatch
    | none => self.insertDispatch dispatch

def hasClaimed (self : SqliteMailboxStore J) (threadId : String) : Bool :=
  self.runDispatches.values.any (fun row => row.threadId = threadId && row.status = "Claimed")

def isEligible (threadId : String) (now : Nat) (row : Row J) : Bool :=
  row.threadId = threadId && row.status = "Queued" && row.availableAt ≤ asI64 now

def eligible (self : SqliteMailboxStore J) (threadId : String) (now limit : Nat) : List String :=
  limited limit (((self.runDispatches.entries.filter (fun e => isEligible threadId now e.2)).insertionSort
    (fun a b => servedBefore a.2 b.2)).map Prod.fst)

def reloadAll (codec : Codec J) (self : SqliteMailboxStore J) (label : String) :
    List String → Except StorageError (List RunDispatch)
  | [] => .ok []
  | id :: ids =>
    match self.reload codec label id with
    | .error e => .error e
    | .ok dispatch => (self.reloadAll codec label ids).map (dispatch :: ·)

def claim (codec : Codec J) (self : SqliteMailboxStore J) (threadId consumerId : String)
    (leaseMs now limit : Nat) (token : String) :
    Outcome StorageError (List RunDispatch) × SqliteMailboxStore J :=
  let self := self.supersedeStaleQueuedForThread threadId now
  if self.hasClaimed threadId then (.ok [], self)
  else
    let dispatchIds := self.eligible threadId now limit
    let leaseUntil := now + leaseMs
    let self := dispatchIds.foldl
      (fun self id => self.update id (setClaimed token consumerId leaseUntil now)) self
    (Outcome.ofExcept (self.reloadAll codec "claim reload" dispatchIds), self)

def hasOtherClaimed (self : SqliteMailboxStore J) (threadId dispatchId : String) : Bool :=
  self.runDispatches.values.any (fun row =>
    row.threadId = threadId && row.dispatchId ≠ dispatchId && row.status = "Claimed")

def claimDispatch (codec : Codec J) (self : SqliteMailboxStore J) (dispatchId consumerId : String)
    (leaseMs now : Nat) (token : String) :
    Outcome StorageError (Option RunDispatch) × SqliteMailboxStore J :=
  match self.load codec "claim_dispatch load" dispatchId with
  | .error e => (.err e, self)
  | .ok none => (.ok none, self)
  | .ok (some dispatch) =>
    if dispatch.status ≠ .queued then (.ok none, self)
    else
      let currentEpoch := self.currentEpochForConn dispatch.threadId
      if dispatch.dispatchEpoch < currentEpoch then
        (.ok none, self.update dispatchId (fun row =>
          if row.status = "Queued" then
            setSupersededAtEpoch (asI64 currentEpoch) now reasonQueuedSupersededByEpoch row
          else row))
      else if self.hasOtherClaimed dispatch.threadId dispatchId then (.ok none, self)
      else
        let self := self.update dispatchId (setClaimed token consumerId (now + leaseMs) now)
        ((Outcome.ofExcept (self.reload codec "claim_dispatch reload" dispatchId)).map some, self)

/-- The shape shared by the operations of a claim holder; `set` is the UPDATE of the operation for
the loaded dispatch. -/
def asHolder (codec : Codec J) (self : SqliteMailboxStore J) (label dispatchId claimToken : String)
    (now : Nat) (checkStatus : Bool) (reason : String) (set : RunDispatch → Row J → Row J) :
    Outcome StorageError Unit × SqliteMailboxStore J :=
  match self.load codec label dispatchId with
  | .error e => (.err e, self)
  | .ok none => (.err (.notFound dispatchId), self)
  | .ok (some dispatch) =>
    if (checkStatus ∧ dispatch.status ≠ .claimed) ∨ dispatch.claimToken ≠ some claimToken then
      (.err (.versionConflict 0 1), self)
    else
      match self.supersedeStaleClaimedIfNeeded codec dispatch claimToken now reason with
      | (.error e, self) => (.err e, self)
      | (.ok true, self) =>
        (.err (.versionConflict dispatch.dispatchEpoch
          (self.currentEpochForConn dispatch.threadId)), self)
      | (.ok false, self) => (.ok (), self.update dispatchId (set dispatch))

def ack (codec : Codec J) (self : SqliteMailboxStore J) (dispatchId claimToken : String)
    (now : Nat) : Outcome StorageError Unit × SqliteMailboxStore J :=
  self.asHolder codec "ack load" dispatchId claimToken now false reasonClaimedSupersededBeforeAck
    (fun _ => setAcked now)

def recordDispatchStart (codec : Codec J) (self : SqliteMailboxStore J)
    (dispatchId claimToken dispatchInstanceId : String) (now : Nat) :
    Outcome StorageError Unit × SqliteMailboxStore J :=
  self.asHolder codec "record_dispatch_start load" dispatchId claimToken now true
    reasonClaimedSupersededBeforeStart (fun _ => setStarted dispatchInstanceId now)

def recordRunResult (codec : Codec J) (self : SqliteMailboxStore J) (dispatchId claimToken : String)
    (result : RunDispatchResult) (now : Nat) : Outcome StorageError Unit × SqliteMailboxStore J :=
  self.asHolder codec "record_run_result load" dispatchId claimToken now true
    reasonClaimedSupersededBeforeResult (fun _ => setFinished codec result now)

def nack (codec : Codec J) (self : SqliteMailboxStore J) (dispatchId claimToken : String)
    (retryAt : Nat) (error : String) (now : Nat) :
    Outcome StorageError Unit × SqliteMailboxStore J :=
  self.asHolder codec "nack load" dispatchId claimToken now false reasonClaimedSupersededBeforeNack
    (fun dispatch =>
      let newAttemptCount := dispatch.attemptCount + 1
      if newAttemptCount ≥ dispatch.maxAttempts then setNackDeadLettered newAttemptCount error now
      else setNackRequeued newAttemptCount error retryAt now)

def deadLetter (codec : Codec J) (self : SqliteMailboxStore J) (dispatchId claimToken error : String)
    (now : Nat) : Outcome StorageError Unit × SqliteMailboxStore J :=
  self.asHolder codec "dead_letter load" dispatchId claimToken now false
    reasonClaimedSupersededBeforeDeadLetter (fun _ => setDeadLettered error now)

def cancel (codec : Codec J) (self : SqliteMailboxStore J) (dispatchId : String) (now : Nat) :
    Outcome StorageError (Option RunDispatch) × SqliteMailboxStore J :=
  match self.load codec "cancel load" dispatchId with
  | .error e => (.err e, self)
  | .ok none => (.ok none, self)
  | .ok (some dispatch) =>
    if dispatch.status ≠ .queued then (.ok none, self)
    else
      let self := self.update dispatchId (setCancelled now)
      ((Outcome.ofExcept (self.reload codec "cancel reload" dispatchId)).map some, self)

def extendLease (codec : Codec J) (self : SqliteMailboxStore J) (dispatchId claimToken : String)
    (extensionMs now : Nat) : Outcome StorageError Bool × SqliteMailboxStore J :=
  match self.load codec "extend_lease load" dispatchId with
  | .error e => (.err e, self)
  | .ok none => (.ok false, self)
  | .ok (some dispatch) =>
    if dispatch.status ≠ .claimed ∨ dispatch.claimToken ≠ some claimToken then (.ok false, self)
    else
      match self.supersedeStaleClaimedIfNeeded codec dispatch claimToken now
        reasonClaimedSupersededDuringLeaseRenewal with
      | (.error e, self) => (.err e, self)
      | (.ok true, self) => (.ok false, self)
      | (.ok false, self) =>
        (.ok ((self.get dispatchId).any (isStillClaimed claimToken)),
          self.update dispatchId (fun row =>
            if isStillClaimed claimToken row then setLease (now + extensionMs) now row else row))

/-- `INSERT … ON CONFLICT (thread_id) DO UPDATE SET current_epoch = current_epoch + 1`. -/
def bumpEpoch (self : SqliteMailboxStore J) (threadId : String) : SqliteMailboxStore J :=
  let currentEpoch := (self.threadDispatchEpochs.get threadId).getD 0
  { self with threadDispatchEpochs := self.threadDispatchEpochs.insert threadId (currentEpoch + 1) }

def isInterruptible (threadId : String) (newDispatchEpoch : Int) (row : Row J) : Bool :=
  row.threadId = threadId && row.status = "Queued" && row.dispatchEpoch < newDispatchEpoch

/-- `mark_superseded` over the selected candidates; its panics are the loop's. -/
def markAllSuperseded (now : Nat) : List RunDispatch → Outcome StorageError (List RunDispatch)
  | [] => .ok []
  | dispatch :: rest =>
    match markSuperseded dispatch now (some reasonQueuedSupersededByInterrupt) with
    | (.ok (), dispatch) => (markAllSuperseded now rest).map (dispatch :: ·)
    | (.err e, _) => .err e
    | (.panic, _) => .panic

def interruptDetailed (codec : Codec J) (self : SqliteMailboxStore J) (threadId : String)
    (now : Nat) : Outcome StorageError MailboxInterruptDetails × SqliteMailboxStore J :=
  let self := self.bumpEpoch threadId
  let newDispatchEpoch := (self.threadDispatchEpochs.get threadId).getD 0
  let candidates := self.runDispatches.values.filter (isInterruptible threadId newDispatchEpoch)
  match collect codec "interrupt superseded collect" candidates with
  | .error e => (.err e, self)
  | .ok dispatches =>
    let self := self.updateWhere (isInterruptible threadId newDispatchEpoch)
      (setSuperseded now reasonQueuedSupersededByInterrupt)
    match markAllSuperseded now dispatches with
    | .err e => (.err e, self)
    | .panic => (.panic, self)
    | .ok supersededDispatches =>
      let active := self.runDispatches.values.find? (fun row =>
        row.threadId = threadId && row.status = "Claimed")
      match collect codec "interrupt active" active.toList with
      | .error e => (.err e, self)
      | .ok activeDispatch =>
        (.ok { newDispatchEpoch := asU64 newDispatchEpoch, activeDispatch := activeDispatch.head?,
               supersededCount := candidates.length,
               supersededDispatches := supersededDispatches.take candidates.length }, self)

def interrupt (codec : Codec J) (self : SqliteMailboxStore J) (threadId : String) (now : Nat) :
    Outcome StorageError MailboxInterrupt × SqliteMailboxStore J :=
  let r := self.interruptDetailed codec threadId now
  (r.1.map (·.intoSummary), r.2)

def supersedeClaimed (codec : Codec J) (self : SqliteMailboxStore J) (dispatchId claimToken : String)
    (now : Nat) (reason : String) :
    Outcome StorageError (Option RunDispatch) × SqliteMailboxStore J :=
  match self.load codec "supersede claimed load" dispatchId with
  | .error e => (.err e, self)
  | .ok none => (.ok none, self)
  | .ok (some dispatch) =>
    let r := self.supersedeClaimedLoaded codec dispatch claimToken now reason
    (Outcome.ofExcept r.1, r.2)

def listDispatches (codec : Codec J) (self : SqliteMailboxStore J) (threadId : String)
    (statusFilter : Option (List RunDispatchStatus)) (limit offset : Nat) :
    Except StorageError (List RunDispatch) :=
  collect codec "list_dispatches row" ((((self.runDispatches.values.filter (fun row =>
      row.threadId = threadId &&
        (statusFilter.map (fun sf => decide (row.status ∈ sf.map statusToStr))).getD true)).insertionSort
    (fun a b => servedBefore a b)).drop offset).take limit)

def countDispatchesByStatus (self : SqliteMailboxStore J) (status : RunDispatchStatus) : Nat :=
  (self.runDispatches.values.filter (fun row => row.status = statusToStr status)).length

def listTerminalDispatches (codec : Codec J) (self : SqliteMailboxStore J) (limit offset : Nat) :
    Except StorageError (List RunDispatch) :=
  collect codec "list_terminal_dispatches collect" (limited limit
    (((self.runDispatches.values.filter (fun row => decide (row.status ∈ terminalStatuses))).insertionSort
      (fun a b => endedBefore a b)).drop (asI64 offset).toNat))

def isExpired (now : Nat) (row : Row J) : Bool :=
  row.status = "Claimed" && row.leaseUntil.any (· < asI64 now)

/-- The body of the update loop of a reclaim, for one expired dispatch as it was selected. -/
def reclaimOne (codec : Codec J) (now : Nat) (self : SqliteMailboxStore J) (dispatch : RunDispatch) :
    Except StorageError Unit × SqliteMailboxStore J :=
  match dispatch.claimToken with
  | none => (.ok (), self)
  | some claimToken =>
    match self.supersedeStaleClaimedIfNeeded codec dispatch claimToken now
      reasonClaimedLeaseExpiredAfterInterrupt with
    | (.error e, self) => (.error e, self)
    | (.ok true, self) => (.ok (), self)
    | (.ok false, self) =>
      let newAttempt := dispatch.attemptCount + 1
      if newAttempt ≥ dispatch.maxAttempts then
        (.ok (), self.update dispatch.dispatchId (setReclaimDeadLettered newAttempt now))
      else (.ok (), self.update dispatch.dispatchId (setReclaimRequeued newAttempt now))

def reclaimAll (codec : Codec J) (now : Nat) (self : SqliteMailboxStore J) :
    List RunDispatch → Except StorageError Unit × SqliteMailboxStore J
  | [] => (.ok (), self)
  | dispatch :: rest =>
    match self.reclaimOne codec now dispatch with
    | (.error e, self) => (.error e, self)
    | (.ok (), self) => reclaimAll codec now self rest

def reclaimExpiredLeases (codec : Codec J) (self : SqliteMailboxStore J) (now limit : Nat) :
    Outcome StorageError (List RunDispatch) × SqliteMailboxStore J :=
  match collect codec "reclaim collect"
    (limited limit (self.runDispatches.values.filter (isExpired now))) with
  | .error e => (.err e, self)
  | .ok expired =>
    match self.reclaimAll codec now expired with
    | (.error e, self) => (.err e, self)
    | (.ok (), self) =>
      ((Outcome.ofExcept (self.reloadAll codec "reclaim reload" (expired.map (·.dispatchId)))).map
        (fun loaded => loaded.filter (fun dispatch => dispatch.status ≠ .superseded)), self)

def isPurgeable (olderThan : Nat) (row : Row J) : Bool :=
  decide (row.status ∈ terminalStatuses) && row.updatedAt < asI64 olderThan

def purgeTerminal (self : SqliteMailboxStore J) (olderThan : Nat) :
    Outcome StorageError Nat × SqliteMailboxStore J :=
  (.ok (self.runDispatches.values.filter (isPurgeable olderThan)).length,
    { self with runDispatches := self.runDispatches.filter (fun _ row => !isPurgeable olderThan row) })

def queuedThreadIds (self : SqliteMailboxStore J) : List String :=
  ((self.runDispatches.values.filter (fun row => row.status = "Queued")).map (·.threadId)).dedup.insertionSort
    (· ≤ ·)

def exec (codec : Codec J) (op : MailboxOp) (self : SqliteMailboxStore J) :
    Outcome StorageError MailboxResp × SqliteMailboxStore J :=
  match op with
  | .enqueue dispatch =>
    let r := self.enqueue dispatch
    (r.1.map (fun _ => .unit), r.2)
  | .claim threadId consumerId leaseMs now limit token =>
    let r := self.claim codec threadId consumerId leaseMs now limit token
    (r.1.map .dispatches, r.2)
  | .claimDispatch dispatchId consumerId leaseMs now token =>
    let r := self.claimDispatch codec dispatchId consumerId leaseMs now token
    (r.1.map .dispatch, r.2)
  | .ack dispatchId claimToken now =>
    let r := self.ack codec dispatchId claimToken now
    (r.1.map (fun _ => .unit), r.2)
  | .recordDispatchStart dispatchId claimToken dispatchInstanceId now =>
    let r := self.recordDispatchStart codec dispatchId claimToken dispatchInstanceId now
    (r.1.map (fun _ => .unit), r.2)
  | .recordRunResult dispatchId claimToken result now =>
    let r := self.recordRunResult codec dispatchId claimToken result now
    (r.1.map (fun _ => .unit), r.2)
  | .nack dispatchId claimToken retryAt error now =>
    let r := self.nack codec dispatchId claimToken retryAt error now
    (r.1.map (fun _ => .unit), r.2)
  | .deadLetter dispatchId claimToken error now =>
    let r := self.deadLetter codec dispatchId claimToken error now
    (r.1.map (fun _ => .unit), r.2)
  | .cancel dispatchId now =>
    let r := self.cancel codec dispatchId now
    (r.1.map .dispatch, r.2)
  | .extendLease dispatchId claimToken extensionMs now =>
    let r := self.extendLease codec dispatchId claimToken extensionMs now
    (r.1.map .flag, r.2)
  | .interrupt threadId now =>
    let r := self.interrupt codec threadId now
    (r.1.map .interrupt, r.2)
  | .interruptDetailed threadId now =>
    let r := self.interruptDetailed codec threadId now
    (r.1.map .details, r.2)
  | .currentDispatchEpoch threadId => (.ok (.count (self.currentEpochForConn threadId)), self)
  | .supersedeClaimed dispatchId claimToken now reason =>
    let r := self.supersedeClaimed codec dispatchId claimToken now reason
    (r.1.map .dispatch, r.2)
  | .loadDispatch dispatchId =>
    ((Outcome.ofExcept (self.load codec "load_dispatch" dispatchId)).map .dispatch, self)
  | .listDispatches threadId statusFilter limit offset =>
    ((Outcome.ofExcept (self.listDispatches codec threadId statusFilter limit offset)).map
      .dispatches, self)
  | .countDispatchesByStatus status => (.ok (.count (self.countDispatchesByStatus status)), self)
  | .listTerminalDispatches limit offset =>
    ((Outcome.ofExcept (self.listTerminalDispatches codec limit offset)).map .dispatches, self)
  | .reclaimExpiredLeases now limit =>
    let r := self.reclaimExpiredLeases codec now limit
    (r.1.map .dispatches, r.2)
  | .purgeTerminal olderThan =>
    let r := self.purgeTerminal olderThan
    (r.1.map .count, r.2)
  | .queuedThreadIds => (.ok (.threads self.queuedThreadIds), self)

def Reorders (s t : SqliteMailboxStore J) : Prop :=
  s.runDispatches.Reorders t.runDispatches ∧ s.threadDispatchEpochs = t.threadDispatchEpochs

end SqliteMailboxStore

open SqliteMailboxStore

structure Call where
  op : MailboxOp
  resp : Outcome StorageError MailboxResp

def Step (codec : Codec J) (s : SqliteMailboxStore J) (call : Call) (s' : SqliteMailboxStore J) :
    Prop :=
  ∃ t, s.Reorders t ∧ exec codec call.op t = (call.resp, s')

def execAll (codec : Codec J) (s : SqliteMailboxStore J) (ops : List MailboxOp) :
    SqliteMailboxStore J :=
  ops.foldl (fun s op => (exec codec op s).2) s

def callTrace (codec : Codec J) (s : SqliteMailboxStore J) :
    List MailboxOp → List (Transition (SqliteMailboxStore J) Call)
  | [] => []
  | op :: ops =>
    ⟨s, ⟨op, (exec codec op s).1⟩, (exec codec op s).2⟩ :: callTrace codec (exec codec op s).2 ops

theorem run_callTrace (codec : Codec J) (s : SqliteMailboxStore J) (ops : List MailboxOp) :
    Run (Step codec) s (callTrace codec s ops) (execAll codec s ops) := by
  induction ops generalizing s with
  | nil => exact .nil s
  | cons op ops ih => exact .cons ⟨s, ⟨.refl _, rfl⟩, rfl⟩ (ih _)

end Awaken.Stores.SqliteMailbox
