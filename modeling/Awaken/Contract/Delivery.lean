import Mathlib.Data.List.Sublists
import Awaken.Contract.MessageAppend

namespace Awaken.Contract

open Awaken.Lib.Text Awaken.Contract.Storage

variable {J C : Type}

inductive DeliveryBoundary where
  | interrupt
  | nextStep
  | onNaturalEnd
  | resumeInput
  | newRun
deriving DecidableEq

def DeliveryBoundary.precedence : DeliveryBoundary → Nat
  | .interrupt => 0
  | .nextStep => 1
  | .onNaturalEnd => 2
  | .resumeInput => 3
  | .newRun => 4

def DeliveryBoundary.eligibleAt (self current : DeliveryBoundary) : Bool :=
  if self = .resumeInput ∨ current = .resumeInput then self = current
  else self.precedence ≤ current.precedence

inductive DeliveryGranularity where
  | one
  | batch
deriving DecidableEq

structure DeliveryMode where
  boundary : DeliveryBoundary
  granularity : DeliveryGranularity
  barrier : Bool
  targetRunId : Option String
  fallbackToNewRun : Bool
deriving DecidableEq

namespace DeliveryMode

def nextStep (granularity : DeliveryGranularity) : DeliveryMode :=
  ⟨.nextStep, granularity, false, none, true⟩

def resumeInput (granularity : DeliveryGranularity) (runId : String) : DeliveryMode :=
  ⟨.resumeInput, granularity, false, some runId, false⟩

def targetedToRun (self : DeliveryMode) (runId : String) (fallbackToNewRun : Bool) : DeliveryMode :=
  { self with targetRunId := some runId, fallbackToNewRun := fallbackToNewRun }

end DeliveryMode

structure PendingMessageRecord (J C : Type) where
  pendingId : String
  threadId : String
  position : Nat
  message : Message J C
  revision : Nat
  deliveryMode : DeliveryMode
  createdAt : Option Nat
  updatedAt : Option Nat
deriving DecidableEq

/-- `gen` is the id drawn for a message that has none. -/
def PendingMessageRecord.fromMessage (gen threadId : String) (position : Nat)
    (message : Message J C) (deliveryMode : DeliveryMode) : PendingMessageRecord J C :=
  let pendingId := message.id.getD gen
  { pendingId := pendingId
    threadId := threadId
    position := position
    message := { message with id := some pendingId }
    revision := 1
    deliveryMode := deliveryMode
    createdAt := none
    updatedAt := none }

section Revision

def fnvByte (hash byte : Nat) : Nat := ((hash ^^^ byte) * 1099511628211) % 18446744073709551616

def leBytes (value : Nat) : List Nat :=
  [value % 256, value / 256 % 256, value / 65536 % 256, value / 16777216 % 256,
    value / 4294967296 % 256, value / 1099511627776 % 256, value / 281474976710656 % 256,
    value / 72057594037927936 % 256]

def fnvRecord (hash : Nat) (record : PendingMessageRecord J C) : Nat :=
  (record.pendingId.toUTF8.toList.map (·.toNat) ++ leBytes record.position ++
    leBytes record.revision).foldl fnvByte hash

def pendingQueueRevision (pending : List (PendingMessageRecord J C)) : Nat :=
  pending.foldl fnvRecord 14695981039346656037

end Revision

section Selection

def eligibleForFreeze (entry : PendingMessageRecord J C) (boundary : DeliveryBoundary)
    (currentRunId : Option String) : Bool :=
  let mode := entry.deliveryMode
  let targeted := match mode.targetRunId with
    | some targetRunId =>
      if boundary = .newRun then mode.fallbackToNewRun else some targetRunId = currentRunId
    | none => true
  targeted && mode.boundary.eligibleAt boundary

def canSkipIneligible (entry : PendingMessageRecord J C) (boundary : DeliveryBoundary) : Bool :=
  (boundary ≠ .newRun && entry.deliveryMode.boundary = .newRun) ||
    (boundary = .newRun && entry.deliveryMode.boundary ≠ .newRun &&
      !entry.deliveryMode.fallbackToNewRun)

/-- The loop from the entry at `index` on: `any` says that an entry was selected before,
`skippedPrior` that one was skipped. -/
def selectFrom (boundary : DeliveryBoundary) (currentRunId : Option String) :
    Nat → Bool → Bool → List (PendingMessageRecord J C) → List Nat
  | _, _, _, [] => []
  | index, any, skippedPrior, entry :: pending =>
    let mode := entry.deliveryMode
    if !eligibleForFreeze entry boundary currentRunId then
      if mode.barrier then []
      else if canSkipIneligible entry boundary then
        selectFrom boundary currentRunId (index + 1) any true pending
      else []
    else if mode.barrier && skippedPrior then []
    else if any && mode.granularity = .one then []
    else if mode.barrier || mode.granularity = .one then [index]
    else index :: selectFrom boundary currentRunId (index + 1) true skippedPrior pending

def selectPendingForFreezeForRun (pending : List (PendingMessageRecord J C))
    (boundary : DeliveryBoundary) (currentRunId : Option String) : List Nat :=
  selectFrom boundary currentRunId 0 false false pending

def selectPendingForFreeze (pending : List (PendingMessageRecord J C))
    (boundary : DeliveryBoundary) : List Nat :=
  selectPendingForFreezeForRun pending boundary none

lemma selectFrom_increasing (boundary : DeliveryBoundary) (currentRunId : Option String)
    (index : Nat) (any skippedPrior : Bool) (pending : List (PendingMessageRecord J C)) :
    (selectFrom boundary currentRunId index any skippedPrior pending).Pairwise (· < ·) ∧
      ∀ i ∈ selectFrom boundary currentRunId index any skippedPrior pending,
        index ≤ i ∧ i < index + pending.length := by
  induction pending generalizing index any skippedPrior with
  | nil =>
    rw [selectFrom]
    exact ⟨List.Pairwise.nil, by simp⟩
  | cons entry pending ih =>
    have hnil : ([] : List Nat).Pairwise (· < ·) ∧
        ∀ i ∈ ([] : List Nat), index ≤ i ∧ i < index + (entry :: pending).length :=
      ⟨List.Pairwise.nil, by simp⟩
    rw [selectFrom]
    split
    · split
      · exact hnil
      · split
        · obtain ⟨hs, hb⟩ := ih (index + 1) any true
          refine ⟨hs, fun i hi => ?_⟩
          have := hb i hi
          rw [List.length_cons]
          omega
        · exact hnil
    · split
      · exact hnil
      · split
        · exact hnil
        · split
          · refine ⟨List.pairwise_singleton _ _, fun i hi => ?_⟩
            rw [List.mem_singleton.mp hi, List.length_cons]
            omega
          · obtain ⟨hs, hb⟩ := ih (index + 1) true skippedPrior
            refine ⟨List.pairwise_cons.mpr ⟨fun i hi => ?_, hs⟩, fun i hi => ?_⟩
            · have := hb i hi
              omega
            · rw [List.length_cons]
              rcases List.mem_cons.mp hi with rfl | hi
              · omega
              · have := hb i hi
                omega

theorem selectPendingForFreezeForRun_increasing (pending : List (PendingMessageRecord J C))
    (boundary : DeliveryBoundary) (currentRunId : Option String) :
    (selectPendingForFreezeForRun pending boundary currentRunId).Pairwise (· < ·) ∧
      ∀ i ∈ selectPendingForFreezeForRun pending boundary currentRunId, i < pending.length := by
  obtain ⟨hs, hb⟩ := selectFrom_increasing boundary currentRunId 0 false false pending
  refine ⟨hs, fun i hi => ?_⟩
  have := (hb i hi).2
  rwa [Nat.zero_add] at this

end Selection

section Checks

def validatePendingMessageRecord (record : PendingMessageRecord J C) : Except StorageError Unit :=
  if isBlank record.pendingId then .error (.validation "pending message id must not be empty")
  else if isBlank record.threadId then
    .error (.validation s!"pending message '{record.pendingId}' thread id must not be empty")
  else if record.position = 0 then
    .error (.validation s!"pending message '{record.pendingId}' position must be 1-based")
  else if record.revision = 0 then
    .error (.validation s!"pending message '{record.pendingId}' revision must be 1-based")
  else
    match record.message.id with
    | some messageId =>
      if messageId = record.pendingId then
        MessageAppend.validateMessageShape record.message "pending"
      else
        .error (.validation
          s!"pending message '{record.pendingId}' cannot carry message id '{messageId}'")
    | none =>
      .error (.validation s!"pending message '{record.pendingId}' must carry message id")

def validatePendingMessageRecords :
    List (PendingMessageRecord J C) → Except StorageError Unit
  | [] => .ok ()
  | record :: records => do
    validatePendingMessageRecord record
    validatePendingMessageRecords records

lemma validatePendingMessageRecord_ok {record : PendingMessageRecord J C}
    (h : validatePendingMessageRecord record = .ok ()) :
    record.message.id = some record.pendingId := by
  unfold validatePendingMessageRecord at h
  split at h
  · cases h
  · split at h
    · cases h
    · split at h
      · cases h
      · split at h
        · cases h
        · split at h
          · rename_i messageId hid
            split at h
            · rename_i heq
              rw [hid, heq]
            · cases h
          · cases h

end Checks

end Awaken.Contract
