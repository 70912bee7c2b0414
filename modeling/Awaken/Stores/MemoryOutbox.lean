import Awaken.Lib.Joined
import Awaken.Lib.Table
import Awaken.Contract.Outbox

/-! The in-memory outbox. The bytes of a serialized draft are a parameter. -/

namespace Awaken.Stores.MemoryOutbox

open Awaken.Lib Awaken.Contract.Mailbox Awaken.Contract.Outbox

structure DedupeRecord (D : Type) where
  digest : D
  outboxId : String

structure InMemoryOutboxState (J D : Type) where
  nextId : Nat
  messages : Table String (OutboxMessage J)
  dedupe : Table (String × String × String) (DedupeRecord D)

abbrev Reply (J D α : Type) := Except OutboxError α × InMemoryOutboxState J D

def u64Max : Nat := 18446744073709551615

variable {J D : Type}

def isClaimable (message : OutboxMessage J) (lane target : String) (now : Nat) : Bool :=
  message.lane = lane && message.target = target &&
    (message.status = .pending || message.status = .claimed) && message.availableAt ≤ now &&
    (message.status = .pending || message.leaseExpiresAt.any (· ≤ now))

def claimLe (a b : OutboxMessage J) : Bool :=
  a.availableAt < b.availableAt || (a.availableAt = b.availableAt &&
    (a.createdAt < b.createdAt || (a.createdAt = b.createdAt && a.outboxId ≤ b.outboxId)))

def claimToken (uuid : String) (attemptCount : Nat) : String := s!"claim_{uuid}_{attemptCount}"

def handOut (message : OutboxMessage J) (leaseMs : Nat) (consumerId uuid : String) (now : Nat) :
    OutboxMessage J :=
  let attemptCount := saturatingSucc message.attemptCount
  { message with
    status := .claimed
    attemptCount := attemptCount
    claimedBy := some consumerId
    claimToken := some (claimToken uuid attemptCount)
    leaseExpiresAt := some (min (now + leaseMs) u64Max)
    updatedAt := now }

/-- The message after its claim is given up. -/
def released (message : OutboxMessage J) (now : Nat) : OutboxMessage J :=
  { message with
    claimedBy := none
    claimToken := none
    leaseExpiresAt := none
    updatedAt := now }

namespace InMemoryOutboxState

def new : InMemoryOutboxState J D := ⟨0, .empty, .empty⟩

def putMessage (self : InMemoryOutboxState J D) (message : OutboxMessage J) :
    InMemoryOutboxState J D :=
  { self with messages := self.messages.insert message.outboxId message }

def putDedupe (self : InMemoryOutboxState J D) (draft : OutboxMessageDraft J) (digest : D)
    (outboxId : String) : InMemoryOutboxState J D :=
  match draft.dedupeKey with
  | some dedupeKey =>
    { self with
      dedupe := self.dedupe.insert (draft.lane, draft.target, dedupeKey) ⟨digest, outboxId⟩ }
  | none => self

def insertNew (self : InMemoryOutboxState J D) (digest : D) (now : Nat)
    (draft : OutboxMessageDraft J) : Reply J D (OutboxMessage J) :=
  let self := { self with nextId := self.nextId + 1 }
  let outboxId := s!"out_mem_{self.nextId}"
  match OutboxMessage.fromEnqueue outboxId draft now with
  | .error e => (.error e, self)
  | .ok message => (.ok message, (self.putDedupe draft digest outboxId).putMessage message)

def dedupeRecord (self : InMemoryOutboxState J D) (draft : OutboxMessageDraft J) :
    Option (String × DedupeRecord D) :=
  draft.dedupeKey.bind (fun dedupeKey =>
    (self.dedupe.get (draft.lane, draft.target, dedupeKey)).map (fun record => (dedupeKey, record)))

def enqueueOutbox [DecidableEq D] (digest : OutboxMessageDraft J → D)
    (self : InMemoryOutboxState J D) (now : Nat) (draft : OutboxMessageDraft J) :
    Reply J D (OutboxMessage J) :=
  match draft.validate with
  | .error e => (.error e, self)
  | .ok () =>
    match self.dedupeRecord draft with
    | some (dedupeKey, record) =>
      if record.digest ≠ digest draft then
        (.error (.conflict s!"outbox dedupe key reused with different input: {dedupeKey}"), self)
      else
        match self.messages.get record.outboxId with
        | some message => (.ok message, self)
        | none =>
          (.error (.io s!"outbox dedupe index points at missing message: {record.outboxId}"), self)
    | none => self.insertNew (digest draft) now draft

def claimOrder (self : InMemoryOutboxState J D) : List String :=
  (self.messages.entries.mergeSort (fun a b => claimLe a.2 b.2)).map Prod.fst

def claimLoop (uuid : Nat → String) (lane target : String) (limit leaseMs : Nat)
    (consumerId : String) (now : Nat) :
    List String → List (OutboxMessage J) → InMemoryOutboxState J D →
      List (OutboxMessage J) × InMemoryOutboxState J D
  | [], claimed, self => (claimed, self)
  | id :: ids, claimed, self =>
    if limit ≤ claimed.length then (claimed, self)
    else
      match self.messages.get id with
      | none => claimLoop uuid lane target limit leaseMs consumerId now ids claimed self
      | some message =>
        if isClaimable message lane target now then
          let message := handOut message leaseMs consumerId (uuid claimed.length) now
          claimLoop uuid lane target limit leaseMs consumerId now ids (claimed ++ [message])
            { self with messages := self.messages.insert id message }
        else claimLoop uuid lane target limit leaseMs consumerId now ids claimed self

def checkClaim (lane target consumerId : String) : Except OutboxError Unit := do
  rejectBlank "lane" lane
  rejectBlank "target" target
  rejectBlank "consumer_id" consumerId

def claimOutbox (uuid : Nat → String) (self : InMemoryOutboxState J D) (lane target : String)
    (limit leaseMs : Nat) (consumerId : String) (now : Nat) :
    Reply J D (List (OutboxMessage J)) :=
  match checkClaim lane target consumerId with
  | .error e => (.error e, self)
  | .ok () =>
    let r := claimLoop uuid lane target limit leaseMs consumerId now self.claimOrder [] self
    (.ok r.1, r.2)

def ackOutbox (self : InMemoryOutboxState J D) (outboxId claimToken : String) (now : Nat) :
    Bool × InMemoryOutboxState J D :=
  match self.messages.get outboxId with
  | none => (false, self)
  | some message =>
    if message.heldBy claimToken then
      let message := { released message now with status := .delivered }
      (true, { self with messages := self.messages.insert outboxId message })
    else (false, self)

def nackOutbox (self : InMemoryOutboxState J D) (outboxId claimToken error : String)
    (retryAt now : Nat) : OutboxNackOutcome × InMemoryOutboxState J D :=
  match self.messages.get outboxId with
  | none => (.lostClaim, self)
  | some message =>
    if message.heldBy claimToken then
      let message := { released message now with lastError := some error }
      if message.maxAttempts.toNat ≤ message.attemptCount then
        let message := { message with status := .deadLetter }
        (.deadLettered, { self with messages := self.messages.insert outboxId message })
      else
        let message := { message with status := .pending, availableAt := retryAt }
        (.requeued, { self with messages := self.messages.insert outboxId message })
    else (.lostClaim, self)

end InMemoryOutboxState

end Awaken.Stores.MemoryOutbox
