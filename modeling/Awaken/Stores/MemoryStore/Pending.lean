import Awaken.Lib.Filtered
import Awaken.Stores.MemoryStore

namespace Awaken.Stores.MemoryStore

open Awaken.Lib Awaken.Contract Awaken.Contract.Storage Awaken.Contract.MessageAppend

variable {J C : Type}

def renumberFrom (start : Nat) (pending : List (PendingMessageRecord J C)) :
    List (PendingMessageRecord J C) :=
  pending.mapIdx (fun index record => { record with position := start + index + 1 })

def normalizePendingPositions (pending : List (PendingMessageRecord J C)) :
    List (PendingMessageRecord J C) :=
  renumberFrom 0 pending

def pendingIds (pending : List (PendingMessageRecord J C)) : List String :=
  pending.map (·.pendingId)

def pendingNotFound (threadId pendingId : String) : StorageError :=
  .notFound s!"pending message '{pendingId}' in thread '{threadId}'"

def alreadyConsumed (pendingId : String) : StorageError :=
  .validation s!"pending message '{pendingId}' is already consumed"

def duplicatePendingId (pendingId : String) : StorageError :=
  .validation s!"pending message '{pendingId}' already exists"

namespace InMemoryStore

def committedMessageExists (self : InMemoryStore J C) (threadId messageId : String) : Bool :=
  (self.committed threadId).any (fun message => message.id = some messageId)

def loadPendingMessageRecords (self : InMemoryStore J C) (threadId : String) :
    Except StorageError (List (PendingMessageRecord J C)) := do
  validatePendingMessageRecords (self.pending threadId)
  return self.pending threadId

def newPendingRecords (gen : Nat → String) (now : Nat) (threadId : String) (start : Nat)
    (deliveryMode : DeliveryMode) (messages : List (Message J C)) :
    List (PendingMessageRecord J C) :=
  messages.mapIdx (fun index message =>
    { PendingMessageRecord.fromMessage (gen index) threadId (start + index) message deliveryMode with
      createdAt := some now
      updatedAt := some now })

def checkNewPending (self : InMemoryStore J C) (threadId : String) (seen : List String) :
    List (PendingMessageRecord J C) → Except StorageError Unit
  | [] => .ok ()
  | record :: records => do
    validatePendingMessageRecord record
    if record.pendingId ∈ seen then .error (duplicatePendingId record.pendingId)
    else if self.committedMessageExists threadId record.pendingId then
      .error (alreadyConsumed record.pendingId)
    else self.checkNewPending threadId (record.pendingId :: seen) records

def appendPendingMessageRecords (self : InMemoryStore J C) (gen : Nat → String) (now : Nat)
    (threadId : String) (messages : List (Message J C)) (deliveryMode : DeliveryMode) :
    Reply J C (List (PendingMessageRecord J C)) :=
  let self := self.touchPending threadId
  let pending := self.pending threadId
  let records := newPendingRecords gen (now / 1000) threadId (pending.length + 1) deliveryMode messages
  match self.checkNewPending threadId (pendingIds pending) records with
  | .error e => (.error e, self)
  | .ok () => (.ok records, self.putPending threadId (pending ++ records))

def consumedOr (self : InMemoryStore J C) (threadId pendingId : String) (otherwise : StorageError) :
    StorageError :=
  if self.committedMessageExists threadId pendingId then alreadyConsumed pendingId else otherwise

def carryPendingId (pendingId : String) (message : Message J C) :
    Except StorageError (Message J C) :=
  match message.id with
  | some messageId =>
    if messageId ≠ pendingId then
      .error (.validation
        s!"pending message '{pendingId}' cannot change message id to '{messageId}'")
    else .ok message
  | none => .ok { message with id := some pendingId }

def updatedRecord (now : Nat) (expectedRevision : Option Nat) (message : Message J C)
    (record : PendingMessageRecord J C) : Except StorageError (PendingMessageRecord J C) := do
  checkVersion expectedRevision record.revision
  let message ← carryPendingId record.pendingId message
  validatePendingMessageRecord { record with message := message }
  return { record with
    message := message
    revision := record.revision + 1
    updatedAt := some (now / 1000) }

def updatePendingMessageRecordChecked (self : InMemoryStore J C) (now : Nat)
    (threadId pendingId : String) (expectedRevision : Option Nat) (message : Message J C) :
    Reply J C (PendingMessageRecord J C) :=
  let pending := self.pending threadId
  match pending.find? (fun record => record.pendingId = pendingId) with
  | some record =>
    match updatedRecord now expectedRevision message record with
    | .error e => (.error e, self)
    | .ok updated =>
      let index := pending.findIdx (fun record => record.pendingId = pendingId)
      (.ok updated, self.putPending threadId (pending.set index updated))
  | none => (.error (self.consumedOr threadId pendingId (pendingNotFound threadId pendingId)), self)

def retractPendingMessageRecordChecked (self : InMemoryStore J C)
    (threadId pendingId : String) (expectedRevision : Option Nat) :
    Reply J C (PendingMessageRecord J C) :=
  let pending := self.pending threadId
  match pending.find? (fun record => record.pendingId = pendingId) with
  | some record =>
    match checkVersion expectedRevision record.revision with
    | .error e => (.error e, self)
    | .ok () =>
      let index := pending.findIdx (fun record => record.pendingId = pendingId)
      (.ok record, self.putPending threadId (normalizePendingPositions (pending.eraseIdx index)))
  | none => (.error (self.consumedOr threadId pendingId (pendingNotFound threadId pendingId)), self)

def firstConsumed (self : InMemoryStore J C) (threadId : String) (ids : List String)
    (otherwise : StorageError) : StorageError :=
  match ids.find? (fun id => self.committedMessageExists threadId id) with
  | some id => alreadyConsumed id
  | none => otherwise

def takeInOrder : List (PendingMessageRecord J C) → List String →
    Except StorageError (List (PendingMessageRecord J C))
  | _, [] => .ok []
  | byId, pendingId :: ids =>
    match byId.find? (fun record => record.pendingId = pendingId) with
    | none => .error (.notFound pendingId)
    | some record => do
      let rest ← takeInOrder (byId.filter (fun record => record.pendingId ≠ pendingId)) ids
      return record :: rest

def lastById : List (PendingMessageRecord J C) → List (PendingMessageRecord J C)
  | [] => []
  | record :: records =>
    if record.pendingId ∈ pendingIds records then lastById records else record :: lastById records

def reorderedQueue (threadId : String) (pending : List (PendingMessageRecord J C))
    (orderedPendingIds : List String) : Except StorageError (List (PendingMessageRecord J C)) :=
  if pending.length ≠ orderedPendingIds.length then
    .error (.versionConflict orderedPendingIds.length pending.length)
  else do
    let reordered ← takeInOrder (lastById pending) orderedPendingIds
    if (lastById pending).any (fun record => record.pendingId ∉ orderedPendingIds) then
      .error (.validation s!"reorder for thread '{threadId}' omitted pending ids")
    else .ok reordered

def reorderPendingMessageRecordsChecked (self : InMemoryStore J C) (now : Nat)
    (threadId : String) (expectedQueueRevision : Option Nat) (orderedPendingIds : List String) :
    Reply J C (List (PendingMessageRecord J C)) :=
  match self.pendingMessages.get threadId with
  | none => (.error (self.firstConsumed threadId orderedPendingIds (.notFound threadId)), self)
  | some pending =>
    match checkVersion expectedQueueRevision (pendingQueueRevision pending) with
    | .error e => (.error e, self)
    | .ok () =>
      match orderedPendingIds.find? (fun id => id ∉ pendingIds pending) with
      | some pendingId => (.error (self.consumedOr threadId pendingId (.notFound pendingId)), self)
      | none =>
        match reorderedQueue threadId pending orderedPendingIds with
        | .error e => (.error e, self)
        | .ok reordered =>
          let reordered := (normalizePendingPositions reordered).map (fun record =>
            { record with revision := record.revision + 1, updatedAt := some (now / 1000) })
          (.ok reordered, self.putPending threadId reordered)

def consume (self : InMemoryStore J C) (threadId : String) (selectedIndexes : List Nat) :
    InMemoryStore J C :=
  let pending := self.pending threadId
  let selected := (picked pending selectedIndexes).map (·.message)
  (self.putPending threadId
    (normalizePendingPositions (unpicked pending selectedIndexes))).putMessages threadId
    (self.committed threadId ++ selected)

def freezeSelected (self : InMemoryStore J C) (gen : Nat → String) (threadId : String)
    (selectedIndexes : List Nat) : Reply J C (List (MessageRecord J C)) :=
  let self := self.touchMessages threadId
  let committed := self.committed threadId
  let selected := (picked (self.pending threadId) selectedIndexes).map (·.message)
  match validateAppendOnlyDelta committed selected with
  | .error e => (.error e, self)
  | .ok () =>
    (.ok (recordsFrom gen threadId (committed.length + 1) selected),
      self.consume threadId selectedIndexes)

def freezePendingMessageRecords (self : InMemoryStore J C) (gen : Nat → String)
    (threadId : String) (boundary : DeliveryBoundary) (expectedMessageVersion : Option Nat) :
    Reply J C (List (MessageRecord J C)) :=
  let self := self.touchMessages threadId
  match checkVersion expectedMessageVersion (self.committed threadId).length with
  | .error e => (.error e, self)
  | .ok () =>
    match self.pendingMessages.get threadId with
    | none => (.ok [], self)
    | some pending =>
      let selectedIndexes := selectPendingForFreeze pending boundary
      if selectedIndexes.isEmpty then (.ok [], self)
      else self.freezeSelected gen threadId selectedIndexes

variable [DecidableEq J]

def checkFreeze (self : InMemoryStore J C) (threadId : String)
    (expectedMessageVersion : Option Nat) (run : RunRecord J) : Except StorageError Unit := do
  self.checkRun threadId run
  checkVersion expectedMessageVersion (self.committed threadId).length

def freezeExpected (self : InMemoryStore J C) (gen : Nat → String) (now : Nat)
    (threadId : String) (boundary : DeliveryBoundary) (expectedPendingIds : List String)
    (run : RunRecord J) : Reply J C (List (MessageRecord J C)) :=
  let pending := self.pending threadId
  let selectedIndexes := selectPendingForFreezeForRun pending boundary (some run.runId)
  let selectedIds := pendingIds (picked pending selectedIndexes)
  if selectedIds ≠ expectedPendingIds then
    (.error (.pendingSelectionConflict expectedPendingIds selectedIds), self)
  else
    match self.freezeSelected gen threadId selectedIndexes with
    | (.error e, self) => (.error e, self)
    | (.ok appended, self) => (.ok appended, self.storeRun threadId now run)

def freezePendingMessageRecordsWithRun (self : InMemoryStore J C) (gen : Nat → String)
    (now : Nat) (threadId : String) (boundary : DeliveryBoundary)
    (expectedMessageVersion : Option Nat) (expectedPendingIds : List String) (run : RunRecord J) :
    Reply J C (List (MessageRecord J C)) :=
  match self.checkFreeze threadId expectedMessageVersion run with
  | .error e => (.error e, self)
  | .ok () =>
    (self.touchPending threadId).freezeExpected gen now threadId boundary expectedPendingIds run

def appendAndFreezePendingMessageRecordsWithRun (self : InMemoryStore J C) (gen : Nat → String)
    (now : Nat) (threadId : String) (newMessages : List (Message J C))
    (appendDeliveryMode : DeliveryMode) (boundary : DeliveryBoundary)
    (expectedMessageVersion : Option Nat) (expectedPendingIds : List String) (run : RunRecord J) :
    Reply J C (List (MessageRecord J C)) :=
  match self.checkFreeze threadId expectedMessageVersion run with
  | .error e => (.error e, self)
  | .ok () =>
    match self.appendPendingMessageRecords gen now threadId newMessages appendDeliveryMode with
    | (.error e, self) => (.error e, self)
    | (.ok _, self) => self.freezeExpected gen now threadId boundary expectedPendingIds run

end InMemoryStore

end Awaken.Stores.MemoryStore
