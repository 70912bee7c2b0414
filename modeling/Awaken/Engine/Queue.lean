import Awaken.State.Command

/-! The queues of scheduled actions. They are two state keys of the runtime, beside the keys of the
plugins. -/

namespace Awaken.Engine

open Awaken.State

section Queues

variable {J : Type}

structure ScheduledActionEnvelope (J : Type) where
  id : Nat
  action : ScheduledAction J
deriving DecidableEq

structure FailedScheduledAction (J : Type) where
  id : Nat
  action : ScheduledAction J
  error : String
deriving DecidableEq

inductive ScheduledActionQueueUpdate (J : Type) where
  | push (entry : ScheduledActionEnvelope J)
  | remove (id : Nat)

def applyPending (value : List (ScheduledActionEnvelope J)) :
    ScheduledActionQueueUpdate J → List (ScheduledActionEnvelope J)
  | .push entry => value ++ [entry]
  | .remove id => value.filter (fun entry => entry.id ≠ id)

def pendingScheduledActions (codec : Codec J (List (ScheduledActionEnvelope J))) : StateKey J where
  key := "__runtime.pending_scheduled_actions"
  merge := .exclusive
  Value := List (ScheduledActionEnvelope J)
  Update := ScheduledActionQueueUpdate J
  default := []
  apply := applyPending
  codec := codec

inductive FailedScheduledActionUpdate (J : Type) where
  | push (entry : FailedScheduledAction J)
  | remove (id : Nat)

def applyFailed (value : List (FailedScheduledAction J)) :
    FailedScheduledActionUpdate J → List (FailedScheduledAction J)
  | .push entry => value ++ [entry]
  | .remove id => value.filter (fun entry => entry.id ≠ id)

def failedScheduledActions (codec : Codec J (List (FailedScheduledAction J))) : StateKey J where
  key := "__runtime.failed_scheduled_actions"
  merge := .exclusive
  Value := List (FailedScheduledAction J)
  Update := FailedScheduledActionUpdate J
  default := []
  apply := applyFailed
  codec := codec

end Queues

section Keys

inductive RuntimeKey (κ : Type) where
  | pending
  | failed
  | other (k : κ)
deriving DecidableEq

structure RuntimeKeys (J κ : Type) where
  pendingCodec : Codec J (List (ScheduledActionEnvelope J))
  failedCodec : Codec J (List (FailedScheduledAction J))
  other : κ → StateKey J

variable {J κ : Type}

def RuntimeKeys.key (keys : RuntimeKeys J κ) : RuntimeKey κ → StateKey J
  | .pending => pendingScheduledActions keys.pendingCodec
  | .failed => failedScheduledActions keys.failedCodec
  | .other k => keys.other k

variable {keys : RuntimeKeys J κ}

def pushPending (entry : ScheduledActionEnvelope J) : MutationOp keys.key :=
  .keyPatch .pending (ScheduledActionQueueUpdate.push entry)

def removePending (id : Nat) : MutationOp keys.key :=
  .keyPatch .pending (ScheduledActionQueueUpdate.remove id)

def pushFailed (entry : FailedScheduledAction J) : MutationOp keys.key :=
  .keyPatch .failed (FailedScheduledActionUpdate.push entry)

def pendingOf (map : StateMap keys.key) : List (ScheduledActionEnvelope J) :=
  (map .pending).getD []

def failedOf (map : StateMap keys.key) : List (FailedScheduledAction J) := (map .failed).getD []

end Keys

end Awaken.Engine
