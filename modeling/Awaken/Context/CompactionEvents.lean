import Awaken.Context.Compaction
import Awaken.Lib.JsonValue
import Awaken.State.CommitAtomicity

namespace Awaken.Context

open Awaken.Lib Awaken.Lib.Text Awaken.State

structure CompactionBoundary where
  summary : String
  taskId : Option String
  boundaryMessageId : Option String
  preTokens : Nat
  postTokens : Nat
  timestampMs : Nat
deriving DecidableEq

structure CompactionFailure where
  taskId : Option String
  boundaryMessageId : String
  error : String
  timestampMs : Nat
deriving DecidableEq

structure CompactionSkipped where
  taskId : Option String
  boundaryMessageId : String
  reason : String
  preTokens : Nat
  postTokens : Nat
  savingsRatioPpm : Nat
  minSavingsRatioPpm : Nat
  timestampMs : Nat
deriving DecidableEq

structure CompactionInFlight where
  taskId : String
  boundaryMessageId : String
  startedAtMs : Nat
deriving DecidableEq

structure CompactionState where
  boundaries : List CompactionBoundary
  failures : List CompactionFailure
  skipped : List CompactionSkipped
  totalCompactions : Nat
  inFlight : Option CompactionInFlight
deriving DecidableEq

inductive CompactionAction where
  | recordBoundary (boundary : CompactionBoundary)
  | recordFailure (failure : CompactionFailure)
  | recordSkipped (skipped : CompactionSkipped)
  | setInFlight (inFlight : CompactionInFlight)
  | clearInFlight
  | clear

namespace CompactionState

def default : CompactionState := ⟨[], [], [], 0, none⟩

def reduce (self : CompactionState) : CompactionAction → CompactionState
  | .recordBoundary boundary =>
    { self with
      boundaries := self.boundaries ++ [boundary]
      totalCompactions := self.totalCompactions + 1 }
  | .recordFailure failure => { self with failures := self.failures ++ [failure] }
  | .recordSkipped skipped => { self with skipped := self.skipped ++ [skipped] }
  | .setInFlight inFlight => { self with inFlight := some inFlight }
  | .clearInFlight => { self with inFlight := none }
  | .clear => default

def isCompacting (self : CompactionState) : Bool := self.inFlight.isSome

end CompactionState

section Key

variable {J κ : Type}

def compactionKeyName : String := "__context_compaction"

def compactionStateKey (codec : Codec J CompactionState) : StateKey J where
  key := compactionKeyName
  merge := .exclusive
  Value := CompactionState
  Update := CompactionAction
  default := .default
  apply := CompactionState.reduce
  codec := codec

abbrev withCompaction (codec : Codec J CompactionState) (K : κ → StateKey J) : Option κ → StateKey J
  | none => compactionStateKey codec
  | some k => K k

variable [DecidableEq κ] {codec : Codec J CompactionState} {K : κ → StateKey J}

abbrev CompactionStore (codec : Codec J CompactionState) (K : κ → StateKey J) :=
  StateStore (withCompaction codec K)

def updateCompaction (batch : MutationBatch (withCompaction codec K)) (action : CompactionAction) :
    MutationBatch (withCompaction codec K) := batch.update none action

def updates (actions : List CompactionAction) : MutationBatch (withCompaction codec K) :=
  actions.foldl updateCompaction .new

def compactionState (store : CompactionStore codec K) : Option CompactionState := store.read none

def inFlight (store : CompactionStore codec K) : Option CompactionInFlight :=
  (compactionState store).bind (·.inFlight)

end Key

section Events

def compactionCompletedEvent : String := "context.compacted"
def compactionFailedEvent : String := "context.compaction_failed"
def compactionStartedEvent : String := "compaction.started"
def compactionSkippedEvent : String := "compaction.skipped"

structure NumberReading (N F : Type) where
  asU64 : N → Option Nat
  asF64 : N → Option F
  quotient : Nat → Nat → F
  ratioToPpm : F → Nat

variable {N F : Type}

def compactionSavingsRatioPpm (numbers : NumberReading N F) (preTokens postTokens : Nat) : Nat :=
  if preTokens = 0 ∨ postTokens ≥ preTokens then 0
  else numbers.ratioToPpm (numbers.quotient (preTokens - postTokens) preTokens)

def innerText (inner : Option (Value N)) (key : String) : Option String :=
  (inner.bind (·.get key)).bind (·.asStr)

def innerNumber (inner : Option (Value N)) (key : String) : Option N :=
  (inner.bind (·.get key)).bind (·.asNumber)

def notBlank (text : String) : Bool := !isBlank text

/-- A ratio in parts per million, cut to 32 bits. -/
def innerPpm (numbers : NumberReading N F) (inner : Option (Value N)) (ppmKey ratioKey : String)
    (otherwise : Nat) : Nat :=
  (((innerNumber inner ppmKey).bind numbers.asU64).getD
    ((((innerNumber inner ratioKey).bind numbers.asF64).map numbers.ratioToPpm).getD otherwise)) %
      2 ^ 32

def compactionEventType (payload : Value N) : Option String :=
  if (payload.get "kind").bind (·.asStr) ≠ some "custom" then none
  else ((payload.get "event_type").bind (·.asStr)).filter (fun t =>
    t = compactionCompletedEvent || t = compactionFailedEvent || t = compactionStartedEvent ||
      t = compactionSkippedEvent)

def compactionEventTaskId (payload : Value N) (inner : Option (Value N)) : Option String :=
  (((payload.get "task_id").bind (·.asStr)).or (innerText inner "task_id")).filter notBlank

def matchingInFlight (priorInFlight : Option CompactionInFlight) (eventTaskId : Option String)
    (boundaryMessageId : String) : Option CompactionInFlight :=
  match priorInFlight with
  | none => none
  | some inFlight =>
    if eventTaskId ≠ some inFlight.taskId then none
    else if boundaryMessageId ≠ "" ∧ boundaryMessageId ≠ inFlight.boundaryMessageId then none
    else some inFlight

variable {J B κ : Type} [DecidableEq κ] {codec : Codec J CompactionState} {K : κ → StateKey J}

structure Consumed (J B : Type) {κ : Type} (codec : Codec J CompactionState) (K : κ → StateKey J)
    [DecidableEq κ] where
  consumed : Bool
  messages : List (ChatMessage J B)
  store : CompactionStore codec K
  swapped : Option AppliedCompaction

def commitLogged (store : CompactionStore codec K) (actions : List CompactionAction) :
    CompactionStore codec K := (store.commit (updates actions)).2

variable (numbers : NumberReading N F) (nowMs : Nat) (messageId : String)
  (messages : List (ChatMessage J B)) (payload : Value N) (store : CompactionStore codec K)

def consumeCompleted : Consumed J B codec K :=
  let inner := payload.get "payload"
  let boundaryId := (innerText inner "boundary_message_id").getD ""
  let summary := (innerText inner "summary").getD ""
  let reportedPreTokens := ((innerNumber inner "pre_tokens").bind numbers.asU64).getD 0
  match matchingInFlight (inFlight store) (compactionEventTaskId payload inner) boundaryId with
  | none => ⟨true, messages, store, none⟩
  | some inFlight =>
    match if boundaryId = "" ∨ summary = "" then none
      else applySummary messageId messages boundaryId summary with
    | some (applied, messages) =>
      ⟨true, messages, commitLogged store
        [.recordBoundary ⟨summary, some inFlight.taskId, some boundaryId,
          max applied.preTokens reportedPreTokens, applied.postTokens, nowMs⟩, .clearInFlight],
        some applied⟩
    | none => ⟨true, messages, commitLogged store [.clearInFlight], none⟩

/-- A blank boundary stands for the one in flight. -/
def boundaryOrInFlight (inner : Option (Value N)) (priorInFlight : Option CompactionInFlight) :
    String :=
  (((innerText inner "boundary_message_id").filter notBlank).or
    (priorInFlight.map (·.boundaryMessageId))).getD ""

def consumeFailed : Consumed J B codec K :=
  let inner := payload.get "payload"
  let errorText := (innerText inner "error").getD "unknown error"
  let boundaryMessageId := boundaryOrInFlight inner (inFlight store)
  match matchingInFlight (inFlight store) (compactionEventTaskId payload inner) boundaryMessageId with
  | none => ⟨true, messages, store, none⟩
  | some inFlight =>
    ⟨true, messages, commitLogged store
      [.recordFailure ⟨some inFlight.taskId, boundaryMessageId, errorText, nowMs⟩, .clearInFlight],
      none⟩

def consumeSkipped : Consumed J B codec K :=
  let inner := payload.get "payload"
  let boundaryMessageId := boundaryOrInFlight inner (inFlight store)
  let reason := ((innerText inner "reason").filter notBlank).getD "unknown"
  let preTokens := ((innerNumber inner "pre_tokens").bind numbers.asU64).getD 0
  let postTokens := ((innerNumber inner "post_tokens").bind numbers.asU64).getD 0
  let savingsRatioPpm := innerPpm numbers inner "savings_ratio_ppm" "savings_ratio"
    (compactionSavingsRatioPpm numbers preTokens postTokens)
  let minSavingsRatioPpm :=
    innerPpm numbers inner "min_savings_ratio_ppm" "min_savings_ratio" 0
  match matchingInFlight (inFlight store) (compactionEventTaskId payload inner) boundaryMessageId with
  | none => ⟨true, messages, store, none⟩
  | some inFlight =>
    ⟨true, messages, commitLogged store
      [.recordSkipped ⟨some inFlight.taskId, boundaryMessageId, reason, preTokens, postTokens,
        savingsRatioPpm, minSavingsRatioPpm, nowMs⟩, .clearInFlight], none⟩

def tryConsumeCompactionEvent : Consumed J B codec K :=
  match compactionEventType payload with
  | none => ⟨false, messages, store, none⟩
  | some eventType =>
    if eventType = compactionCompletedEvent then
      consumeCompleted numbers nowMs messageId messages payload store
    else if eventType = compactionFailedEvent then consumeFailed nowMs messages payload store
    else if eventType = compactionSkippedEvent then
      consumeSkipped numbers nowMs messages payload store
    else ⟨true, messages, store, none⟩

end Events

section Spawn

variable {J κ : Type} [DecidableEq κ] {codec : Codec J CompactionState} {K : κ → StateKey J}

inductive Reservation where
  | reserved
  | busy
  | conflict
  | failed (error : StateError)

/-- One attempt of the source's loop, which reads a snapshot and commits against its revision. -/
def reserveAttempt (snapshot : Snapshot (withCompaction codec K)) (store : CompactionStore codec K)
    (inFlight : CompactionInFlight) : Reservation × CompactionStore codec K :=
  let state : Option CompactionState := snapshot.get none
  if state.any (·.isCompacting) then (.busy, store)
  else
    match store.commit ((updates [.setInFlight inFlight]).withBaseRevision snapshot.revision) with
    | (.ok _, store) => (.reserved, store)
    | (.error (.revisionConflict _ _), store) => (.conflict, store)
    | (.error error, store) => (.failed error, store)

def clearInFlightAfterSpawnFailure (store : CompactionStore codec K) (taskId : String) :
    CompactionStore codec K :=
  if (inFlight store).all (·.taskId ≠ taskId) then store else commitLogged store [.clearInFlight]

end Spawn

end Awaken.Context
