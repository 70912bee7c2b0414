import Awaken.Lib.Text
import Awaken.Contract.Mailbox

namespace Awaken.Contract.Outbox

open Awaken.Lib.Text

inductive OutboxError where
  | validation (message : String)
  | conflict (message : String)
  | serialization (message : String)
  | io (message : String)
deriving DecidableEq

inductive OutboxStatus where
  | pending
  | claimed
  | delivered
  | deadLetter
deriving DecidableEq

structure OutboxMessageDraft (J : Type) where
  lane : String
  target : String
  payload : J
  dedupeKey : Option String
  availableAt : Nat
  maxAttempts : UInt32
deriving DecidableEq

structure OutboxMessage (J : Type) where
  outboxId : String
  lane : String
  target : String
  payload : J
  dedupeKey : Option String
  status : OutboxStatus
  availableAt : Nat
  attemptCount : Nat
  maxAttempts : UInt32
  claimedBy : Option String
  claimToken : Option String
  leaseExpiresAt : Option Nat
  lastError : Option String
  createdAt : Nat
  updatedAt : Nat
deriving DecidableEq

inductive OutboxNackOutcome where
  | requeued
  | deadLettered
  | lostClaim
deriving DecidableEq

def rejectBlank (field value : String) : Except OutboxError Unit :=
  if isBlank value then .error (.validation s!"{field} is required") else .ok ()

def rejectOptionalBlank (field : String) (value : Option String) : Except OutboxError Unit :=
  match value with
  | some value => rejectBlank field value
  | none => .ok ()

variable {J : Type}

def OutboxMessageDraft.validate (self : OutboxMessageDraft J) : Except OutboxError Unit := do
  rejectBlank "lane" self.lane
  rejectBlank "target" self.target
  rejectOptionalBlank "dedupe_key" self.dedupeKey
  if self.maxAttempts = 0 then
    .error (.validation "max_attempts must be greater than zero")
  else .ok ()

namespace OutboxMessage

def fromEnqueue (outboxId : String) (draft : OutboxMessageDraft J) (now : Nat) :
    Except OutboxError (OutboxMessage J) := do
  draft.validate
  rejectBlank "outbox_id" outboxId
  return {
    outboxId := outboxId
    lane := draft.lane
    target := draft.target
    payload := draft.payload
    dedupeKey := draft.dedupeKey
    status := .pending
    availableAt := draft.availableAt
    attemptCount := 0
    maxAttempts := draft.maxAttempts
    claimedBy := none
    claimToken := none
    leaseExpiresAt := none
    lastError := none
    createdAt := now
    updatedAt := now }

def heldBy (self : OutboxMessage J) (claimToken : String) : Bool :=
  self.status = .claimed && self.claimToken = some claimToken

end OutboxMessage

end Awaken.Contract.Outbox
