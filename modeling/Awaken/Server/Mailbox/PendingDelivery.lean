import Awaken.Stores.MemoryStore.Pending
import Awaken.Server.Mailbox.Activation

namespace Awaken.Server.Mailbox

open Awaken.Lib Awaken.Contract Awaken.Contract.Storage Awaken.Stores.MemoryStore

variable {J C : Type}

def deliveryModeForDispatch (boundary : DeliveryBoundary) (runId : String) : DeliveryMode :=
  match boundary with
  | .resumeInput => .resumeInput .batch runId
  | boundary => ⟨boundary, .batch, false, none, true⟩

def dispatchBoundary (request : RunActivation J C) : Option DeliveryBoundary :=
  match request.runMode with
  | .foreground => some .interrupt
  | .scheduled => some .newRun
  | .internalWake => none
  | .resume => if request.seededDecisions.isEmpty then some .resumeInput else none

def preflightRecord (threadId : String) (position : Nat) (emptyMessage : Message J C) :
    PendingMessageRecord J C where
  pendingId := "__preflight_foreground__"
  threadId := threadId
  position := position
  message := emptyMessage
  revision := 0
  deliveryMode := deliveryModeForDispatch .interrupt ""
  createdAt := none
  updatedAt := none

def blockedBy (pending : List (PendingMessageRecord J C)) : MailboxError :=
  let blocking := (pending.find? (·.deliveryMode.barrier)).or pending.head?
  .deliveryBlockedByBarrier ((blocking.map (·.pendingId)).getD "")

def preflightForegroundPending (store : InMemoryStore J C) (hasPendingStore : Bool)
    (threadId : String) (emptyMessage : Message J C) : Except MailboxError Unit :=
  if !hasPendingStore then .ok ()
  else
    match store.loadPendingMessageRecords threadId with
    | .error e => .error (.store e)
    | .ok pending =>
      if pending.isEmpty then .ok ()
      else
        let simulated := pending ++ [preflightRecord threadId (pending.length + 1) emptyMessage]
        if !(selectPendingForFreezeForRun simulated .interrupt none).isEmpty then .ok ()
        else .error (blockedBy pending)

structure FreezeJob (J C : Type) where
  snapshotTemplate : RunActivationSnapshot
  threadId : String
  boundary : DeliveryBoundary
  runId : String
  record : RunRecord J
  append : Option (List (Message J C) × DeliveryMode)

structure FreezePlan where
  expectedVersion : Nat
  selectedPendingIds : List String
  triggerMessageIds : List String
  now : Nat

def simulatedRecords (gen : Nat → String) (threadId : String) (start : Nat)
    (append : Option (List (Message J C) × DeliveryMode)) : List (PendingMessageRecord J C) :=
  match append with
  | none => []
  | some (newMessages, appendMode) =>
    newMessages.mapIdx fun index message =>
      PendingMessageRecord.fromMessage (gen index) threadId (start + index) message appendMode

def triggerIds : List (PendingMessageRecord J C) → Except MailboxError (List String)
  | [] => .ok []
  | record :: records =>
    match record.message.id with
    | none => .error (.internal s!"pending message '{record.pendingId}' has no message id")
    | some id => do
      let ids ← triggerIds records
      return id :: ids

def mergeTriggerIds (merged : List String) : List String → List String
  | [] => merged
  | id :: ids => mergeTriggerIds (if id ∈ merged then merged else merged ++ [id]) ids

namespace FreezeJob

variable (self : FreezeJob J C)

def simulated (gen : Nat → String) (pending : List (PendingMessageRecord J C)) :
    List (PendingMessageRecord J C) :=
  pending ++ simulatedRecords gen self.threadId (pending.length + 1) self.append

def attemptRecord (plan : FreezePlan) : RunRecord J :=
  let prior := (self.record.input.map (·.triggerMessageIds)).getD []
  let (inputSnapshot, input) := buildRunInput self.threadId
    (plan.expectedVersion + plan.selectedPendingIds.length)
    (mergeTriggerIds prior plan.triggerMessageIds)
  { self.record with
    activation := some { self.snapshotTemplate with input := inputSnapshot }
    input := some input
    updatedAt := plan.now / 1000 }

/-- `none` where no message is eligible. -/
def plan (gen : Nat → String) (now : Nat) (committed : List (Message J C))
    (pending : List (PendingMessageRecord J C)) : Except MailboxError (Option FreezePlan) :=
  let pending := self.simulated gen pending
  let selectedIndexes := selectPendingForFreezeForRun pending self.boundary (some self.runId)
  if selectedIndexes.isEmpty then .ok none
  else do
    let selected := picked pending selectedIndexes
    let triggerMessageIds ← triggerIds selected
    return some {
      expectedVersion := committed.length
      selectedPendingIds := pendingIds selected
      triggerMessageIds := triggerMessageIds
      now := now }

variable [DecidableEq J]

def commit (store : InMemoryStore J C) (gen : Nat → String) (now : Nat) (plan : FreezePlan) :
    Reply J C (List (MessageRecord J C)) :=
  match self.append with
  | some (newMessages, appendMode) =>
    store.appendAndFreezePendingMessageRecordsWithRun gen now self.threadId newMessages appendMode
      self.boundary (some plan.expectedVersion) plan.selectedPendingIds (self.attemptRecord plan)
  | none =>
    store.freezePendingMessageRecordsWithRun gen now self.threadId self.boundary
      (some plan.expectedVersion) plan.selectedPendingIds (self.attemptRecord plan)

end FreezeJob

end Awaken.Server.Mailbox
