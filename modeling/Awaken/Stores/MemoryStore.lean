import Awaken.Lib.Table
import Awaken.State.Persistence
import Awaken.Contract.MessageAppend
import Awaken.Contract.Thread
import Awaken.Contract.Delivery

/-! The in-memory store of threads, runs and messages. A failed call leaves the store it returns
beside its error. `now` is the clock, `gen` are the ids drawn for messages that have none. -/

namespace Awaken.Stores.MemoryStore

open Awaken.Lib Awaken.State Awaken.Contract Awaken.Contract.Storage Awaken.Contract.MessageAppend
open Awaken.Contract.Lifecycle

variable {J C : Type}

structure InMemoryStore (J C : Type) where
  threads : Table String (Thread J)
  runs : Table String (RunRecord J)
  runInsertion : Table String Nat
  runSeq : Nat
  messages : Table String (List (Message J C))
  pendingMessages : Table String (List (PendingMessageRecord J C))
  threadStates : Table String (PersistedState J)

abbrev Reply (J C α : Type) : Type := Except StorageError α × InMemoryStore J C

namespace InMemoryStore

def new : InMemoryStore J C := ⟨.empty, .empty, .empty, 0, .empty, .empty, .empty⟩

def committed (self : InMemoryStore J C) (threadId : String) : List (Message J C) :=
  (self.messages.get threadId).getD []

def pending (self : InMemoryStore J C) (threadId : String) : List (PendingMessageRecord J C) :=
  (self.pendingMessages.get threadId).getD []

def putMessages (self : InMemoryStore J C) (threadId : String) (log : List (Message J C)) :
    InMemoryStore J C :=
  { self with messages := self.messages.insert threadId log }

def putPending (self : InMemoryStore J C) (threadId : String)
    (pending : List (PendingMessageRecord J C)) : InMemoryStore J C :=
  { self with pendingMessages := self.pendingMessages.insert threadId pending }

def touchMessages (self : InMemoryStore J C) (threadId : String) : InMemoryStore J C :=
  if (self.messages.get threadId).isSome then self else self.putMessages threadId []

def touchPending (self : InMemoryStore J C) (threadId : String) : InMemoryStore J C :=
  if (self.pendingMessages.get threadId).isSome then self else self.putPending threadId []

section Hierarchy

/-- The ancestors from `current` upwards. The walk visits no thread twice, so it ends before the
fuel does. -/
def climbHierarchy (threads : Table String (Thread J)) (root : String) :
    Nat → List String → String → Except StorageError Unit
  | 0, _, _ => .ok ()
  | fuel + 1, visited, current =>
    if current ∈ visited then
      invalidRun s!"thread hierarchy cycle detected at '{current}'"
    else
      match threads.get current with
      | none =>
        if current = root then invalidRun s!"parent thread not found: {root}"
        else invalidRun s!"thread hierarchy references missing ancestor '{current}'"
      | some thread =>
        match normalizeLineageId thread.parentThreadId with
        | none => .ok ()
        | some next => climbHierarchy threads root fuel (current :: visited) next

def validateThreadHierarchyMap (threads : Table String (Thread J)) (threadId : String)
    (parentThreadId : Option String) : Except StorageError Unit :=
  match normalizeLineageId parentThreadId with
  | none => .ok ()
  | some parent =>
    if parent = threadId then invalidRun s!"thread '{threadId}' cannot parent itself"
    else climbHierarchy threads parent (threads.entries.length + 1) [threadId] parent

end Hierarchy

section ThreadStore

def loadThread (self : InMemoryStore J C) (threadId : String) : Option (Thread J) :=
  self.threads.get threadId

def putThread (self : InMemoryStore J C) (thread : Thread J) : InMemoryStore J C :=
  { self with threads := self.threads.insert thread.id thread }

def saveThread (self : InMemoryStore J C) (thread : Thread J) : Reply J C Unit :=
  let normalized := thread.normalizeLineage
  match normalized.validateForPersist with
  | .error e => (.error e, self)
  | .ok () => (.ok (), self.putThread normalized)

def saveThreadValidated (self : InMemoryStore J C) (thread : Thread J) : Reply J C Unit :=
  let normalized := thread.normalizeLineage
  match normalized.validateForPersist with
  | .error e => (.error e, self)
  | .ok () =>
    match validateThreadHierarchyMap self.threads normalized.id normalized.parentThreadId with
    | .error e => (.error e, self)
    | .ok () => (.ok (), self.putThread normalized)

def deleteThread (self : InMemoryStore J C) (threadId : String) : InMemoryStore J C :=
  { self with
    threads := self.threads.remove threadId
    messages := self.messages.remove threadId
    pendingMessages := self.pendingMessages.remove threadId
    threadStates := self.threadStates.remove threadId }

def saveThreadState (self : InMemoryStore J C) (threadId : String) (state : PersistedState J) :
    InMemoryStore J C :=
  { self with threadStates := self.threadStates.insert threadId state }

def updateThreadMetadata (self : InMemoryStore J C) (id : String) (metadata : ThreadMetadata J) :
    Reply J C Unit :=
  match self.threads.get id with
  | none => (.error (.notFound id), self)
  | some thread =>
    (.ok (), { self with threads := self.threads.insert id { thread with metadata := metadata } })

end ThreadStore

section Messages

def loadCommittedMessages (self : InMemoryStore J C) (threadId : String) :
    Except StorageError (Option (List (Message J C))) :=
  match self.messages.get threadId with
  | none => .ok none
  | some log => do
    validateCommittedMessages log
    return some log

def loadMessages (self : InMemoryStore J C) (threadId : String) :
    Except StorageError (Option (List (Message J C))) :=
  match self.messages.get threadId with
  | none => .ok none
  | some log => do
    validateCommittedMessages log
    return some (stripUnpairedToolCallsFromView log)

def loadMessageRecords (self : InMemoryStore J C) (gen : Nat → String) (threadId : String) :
    Except StorageError (Option (List (MessageRecord J C))) := do
  let messages ← self.loadMessages threadId
  return messages.map (recordsFrom gen threadId 1)

def loadMessageRecordsRange (self : InMemoryStore J C) (gen : Nat → String) (threadId : String)
    (range : MessageSeqRange) : Except StorageError (List (MessageRecord J C)) := do
  let records ← self.loadMessageRecords gen threadId
  return (records.getD []).filter (fun record =>
    range.fromSeq ≤ record.seq && record.seq ≤ range.toSeq)

def validateRecordFields (threadId : String) (index : Nat) :
    List (MessageRecord J C) → Except StorageError Unit
  | [] => .ok ()
  | record :: records =>
    if record.threadId ≠ threadId then
      .error (.validation (s!"committed message '{record.messageId}' belongs to thread " ++
        s!"'{record.threadId}', expected '{threadId}'"))
    else if record.seq ≠ index + 1 then
      .error (.serialization
        s!"committed message seq must be continuous: expected {index + 1}, got {record.seq}")
    else
      match record.message.id with
      | some messageId =>
        if messageId = record.messageId then validateRecordFields threadId (index + 1) records
        else
          .error (.validation
            s!"committed message record '{record.messageId}' cannot carry message id '{messageId}'")
      | none =>
        .error (.validation s!"committed message record '{record.messageId}' must carry message id")

def validateCommittedMessageRecords (threadId : String) (records : List (MessageRecord J C)) :
    Except StorageError Unit := do
  validateRecordFields threadId 0 records
  validateCommittedMessages (records.map (·.message))

def listMessageRecords (self : InMemoryStore J C) (gen : Nat → String) (threadId : String)
    (query : MessageQuery) : Except StorageError (MessagePage J C) :=
  match self.messages.get threadId with
  | none => .ok .empty
  | some log => do
    validateCommittedMessages log
    let records := recordsFrom gen threadId 1 (stripUnpairedToolCallsFromView log)
    validateCommittedMessageRecords threadId records
    return paginateMessageRecords records query

def saveMessages (self : InMemoryStore J C) (threadId : String) (messages : List (Message J C)) :
    Reply J C Unit :=
  match validateCommittedMessages messages with
  | .error e => (.error e, self)
  | .ok () => (.ok (), self.putMessages threadId messages)

def appendMessageRecords (self : InMemoryStore J C) (gen : Nat → String) (threadId : String)
    (messages : List (Message J C)) : Reply J C (List (MessageRecord J C)) :=
  let self := self.touchMessages threadId
  let existing := self.committed threadId
  match validateAppendOnlyDelta existing messages with
  | .error e => (.error e, self)
  | .ok () =>
    (.ok (recordsFrom gen threadId (existing.length + 1) messages),
      self.putMessages threadId (existing ++ messages))

def deleteMessages (self : InMemoryStore J C) (threadId : String) : Reply J C Unit :=
  match self.threads.get threadId with
  | none => (.error (.notFound threadId), self)
  | some _ => (.ok (), { self with messages := self.messages.remove threadId })

end Messages

section Runs

variable [DecidableEq J]

def putRun (self : InMemoryStore J C) (run : RunRecord J) : InMemoryStore J C :=
  { self with
    runs := self.runs.insert run.runId run
    runInsertion := self.runInsertion.insert run.runId self.runSeq
    runSeq := self.runSeq + 1 }

def createRun (self : InMemoryStore J C) (record : RunRecord J) : Reply J C Unit :=
  match record.validateForPersist with
  | .error e => (.error e, self)
  | .ok () =>
    match self.runs.get record.runId with
    | some _ => (.error (.alreadyExists record.runId), self)
    | none => (.ok (), self.putRun record)

def loadRun (self : InMemoryStore J C) (runId : String) : Option (RunRecord J) :=
  self.runs.get runId

def recentLe (self : InMemoryStore J C) (a b : RunRecord J) : Bool :=
  a.updatedAt < b.updatedAt || (a.updatedAt = b.updatedAt &&
    (self.runInsertion.get a.runId).getD 0 ≤ (self.runInsertion.get b.runId).getD 0)

def latestOf (self : InMemoryStore J C) (best : Option (RunRecord J)) (run : RunRecord J) :
    Option (RunRecord J) :=
  match best with
  | none => some run
  | some b => if self.recentLe b run then some run else some b

def latestRun (self : InMemoryStore J C) (threadId : String) : Option (RunRecord J) :=
  (self.runs.values.filter (fun run => run.threadId = threadId)).foldl self.latestOf none

def checkVersion (expectedVersion : Option Nat) (actual : Nat) : Except StorageError Unit :=
  match expectedVersion with
  | some expected =>
    if expected ≠ actual then .error (.versionConflict expected actual) else .ok ()
  | none => .ok ()

def checkRun (self : InMemoryStore J C) (threadId : String) (run : RunRecord J) :
    Except StorageError Unit := do
  run.validateForPersist
  validateThreadHierarchyMap self.threads threadId
    (checkpointParentThreadId (self.threads.get threadId) run)

def projectRun (existingThread : Option (Thread J)) (threadId : String) (now : Nat)
    (run : RunRecord J) : Thread J :=
  (((existingThread.getD (.withId threadId)).touch now).applyRunProjection run).normalizeLineage

def storeRun (self : InMemoryStore J C) (threadId : String) (now : Nat) (run : RunRecord J) :
    InMemoryStore J C :=
  let thread := projectRun (self.threads.get threadId) threadId now run
  { self with threads := self.threads.insert threadId thread }.putRun run

def checkCheckpoint (self : InMemoryStore J C) (threadId : String) (messages : List (Message J C))
    (run : RunRecord J) : Except StorageError Unit := do
  run.validateForPersist
  validateCommittedMessages messages
  validateThreadHierarchyMap self.threads threadId
    (checkpointParentThreadId (self.threads.get threadId) run)

def checkpoint (self : InMemoryStore J C) (now : Nat) (threadId : String)
    (messages : List (Message J C)) (run : RunRecord J) : Reply J C Unit :=
  match self.checkCheckpoint threadId messages run with
  | .error e => (.error e, self)
  | .ok () => (.ok (), (self.putMessages threadId messages).storeRun threadId now run)

def checkpointAppend (self : InMemoryStore J C) (now : Nat) (threadId : String)
    (messages : List (Message J C)) (expectedVersion : Option Nat) (run : RunRecord J) :
    Reply J C Nat :=
  match self.checkRun threadId run with
  | .error e => (.error e, self)
  | .ok () =>
    match checkVersion expectedVersion (self.committed threadId).length with
    | .error e => (.error e, self)
    | .ok () =>
      let self := self.touchMessages threadId
      match mergeCheckpointAppendMessages (self.committed threadId) messages with
      | .error e => (.error e, self)
      | .ok merged => (.ok merged.length, (self.putMessages threadId merged).storeRun threadId now run)

end Runs

end InMemoryStore

end Awaken.Stores.MemoryStore
