import Mathlib.Data.List.Sort
import Awaken.Lib.Table
import Awaken.Lib.Run
import Awaken.Stores.MailboxState

/-! The in-memory mailbox store. The two maps are tables, whose order stands for the unspecified
iteration order of a hash map; a step may reorder the dispatches before it runs. -/

namespace Awaken.Stores.MemoryMailbox

open Awaken.Lib Awaken.Contract.Mailbox Awaken.Contract.Storage
open Awaken.Stores.MailboxState

structure MailboxState where
  currentDispatchEpoch : Nat

structure InMemoryMailboxStore where
  dispatches : Table String RunDispatch
  state : Table String MailboxState

def currentEpochFromState (state : Table String MailboxState) (threadId : String) : Nat :=
  ((state.get threadId).map (·.currentDispatchEpoch)).getD 0

namespace InMemoryMailboxStore

def new : InMemoryMailboxStore := ⟨Table.empty, Table.empty⟩

def epoch (self : InMemoryMailboxStore) (threadId : String) : Nat :=
  currentEpochFromState self.state threadId

def get (self : InMemoryMailboxStore) (dispatchId : String) : Option RunDispatch :=
  self.dispatches.get dispatchId

def put (self : InMemoryMailboxStore) (dispatchId : String) (dispatch : RunDispatch) :
    InMemoryMailboxStore :=
  { self with dispatches := self.dispatches.modify dispatchId (fun _ => dispatch) }

def isDuplicate (self : InMemoryMailboxStore) (dispatch : RunDispatch) (dedupeKey : String) : Bool :=
  self.dispatches.values.any (fun j =>
    j.threadId = dispatch.threadId && j.dedupeKey = some dedupeKey && !j.status.isTerminal)

def touchThread (self : InMemoryMailboxStore) (threadId : String) : InMemoryMailboxStore :=
  if (self.state.get threadId).isSome then self
  else { self with state := self.state.insert threadId ⟨0⟩ }

def enqueueFresh (self : InMemoryMailboxStore) (dispatch : RunDispatch) :
    Outcome StorageError Unit × InMemoryMailboxStore :=
  let self := self.touchThread dispatch.threadId
  let dispatch := dispatch.prepareForEnqueue (self.epoch dispatch.threadId)
  match dispatch.validateForPersist with
  | .error e => (.err e, self)
  | .ok () =>
    (.ok (), { self with dispatches := self.dispatches.insert dispatch.dispatchId dispatch })

def enqueue (self : InMemoryMailboxStore) (dispatch : RunDispatch) :
    Outcome StorageError Unit × InMemoryMailboxStore :=
  match dispatch.validateForEnqueue with
  | .error e => (.err e, self)
  | .ok () =>
    match dispatch.dedupeKey with
    | some dk =>
      if self.isDuplicate dispatch dk then (.err (.alreadyExists s!"dedupe_key={dk}"), self)
      else self.enqueueFresh dispatch
    | none => self.enqueueFresh dispatch

def supersedeStale (threadId : String) (currentEpoch now : Nat) (_ : Unit) (dispatch : RunDispatch) :
    Outcome StorageError Unit × RunDispatch :=
  if dispatch.threadId = threadId ∧ dispatch.status = .queued ∧
      dispatch.dispatchEpoch < currentEpoch then
    markSupersededAtEpoch dispatch now currentEpoch (some reasonQueuedSupersededByEpoch)
  else (.ok (), dispatch)

def servedBefore (a b : RunDispatch) : Bool :=
  a.priority < b.priority || (a.priority = b.priority && a.createdAt ≤ b.createdAt)

def isEligible (threadId : String) (now : Nat) (dispatch : RunDispatch) : Bool :=
  dispatch.threadId = threadId && dispatch.status = .queued && dispatch.availableAt ≤ now

def eligible (dispatches : Table String RunDispatch) (threadId : String) (now limit : Nat) :
    List String :=
  (((dispatches.entries.filter (fun e => isEligible threadId now e.2)).insertionSort
    (fun a b => servedBefore a.2 b.2)).map Prod.fst).take limit

def claimOne (consumerId token : String) (leaseUntil now : Nat) (dispatch : RunDispatch) :
    Outcome StorageError (Option RunDispatch) × RunDispatch :=
  match dispatch.claim consumerId token leaseUntil now with
  | (.ok (), dispatch) => (.ok (some dispatch), dispatch)
  | (.error e, dispatch) => (.err e, dispatch)

def hasClaimed (dispatches : Table String RunDispatch) (threadId : String) : Bool :=
  dispatches.values.any (fun j => j.threadId = threadId && j.status = .claimed)

def claim (self : InMemoryMailboxStore) (threadId consumerId : String) (leaseMs now limit : Nat)
    (token : String) : Outcome StorageError (List RunDispatch) × InMemoryMailboxStore :=
  let currentEpoch := self.epoch threadId
  match self.dispatches.sweep (supersedeStale threadId currentEpoch now) () with
  | (.err e, dispatches) => (.err e, { self with dispatches := dispatches })
  | (.panic, dispatches) => (.panic, { self with dispatches := dispatches })
  | (.ok (), dispatches) =>
    if hasClaimed dispatches threadId then (.ok [], { self with dispatches := dispatches })
    else
      let r := dispatches.updateEach (claimOne consumerId token (now + leaseMs) now) .notFound
        (eligible dispatches threadId now limit)
      (r.1, { self with dispatches := r.2 })

def hasOtherClaimed (self : InMemoryMailboxStore) (threadId dispatchId : String) : Bool :=
  self.dispatches.values.any (fun j =>
    j.threadId = threadId && j.dispatchId ≠ dispatchId && j.status = .claimed)

def claimDispatch (self : InMemoryMailboxStore) (dispatchId consumerId : String)
    (leaseMs now : Nat) (token : String) :
    Outcome StorageError (Option RunDispatch) × InMemoryMailboxStore :=
  match self.get dispatchId with
  | none => (.ok none, self)
  | some dispatch =>
    if dispatch.status ≠ .queued then (.ok none, self)
    else
      let currentEpoch := self.epoch dispatch.threadId
      if dispatch.dispatchEpoch < currentEpoch then
        let r := markSupersededAtEpoch dispatch now currentEpoch
          (some reasonQueuedSupersededByEpoch)
        (r.1.map (fun _ => none), self.put dispatchId r.2)
      else if self.hasOtherClaimed dispatch.threadId dispatchId then (.ok none, self)
      else
        let r := claimOne consumerId token (now + leaseMs) now dispatch
        (r.1, self.put dispatchId r.2)

def asHolder (self : InMemoryMailboxStore) (dispatchId claimToken : String) (now : Nat)
    (checkStatus : Bool) (reason : String)
    (body : RunDispatch → Outcome StorageError Unit × RunDispatch) :
    Outcome StorageError Unit × InMemoryMailboxStore :=
  match self.get dispatchId with
  | none => (.err (.notFound dispatchId), self)
  | some dispatch =>
    if (checkStatus ∧ dispatch.status ≠ .claimed) ∨ dispatch.claimToken ≠ some claimToken then
      (.err (.versionConflict 0 1), self)
    else
      let currentEpoch := self.epoch dispatch.threadId
      if dispatch.dispatchEpoch < currentEpoch then
        let r := markSupersededAtEpoch dispatch now currentEpoch (some reason)
        match r.1 with
        | .ok () =>
          (.err (.versionConflict dispatch.dispatchEpoch currentEpoch), self.put dispatchId r.2)
        | failure => (failure, self.put dispatchId r.2)
      else
        let r := body dispatch
        (r.1, self.put dispatchId r.2)

def ack (self : InMemoryMailboxStore) (dispatchId claimToken : String) (now : Nat) :
    Outcome StorageError Unit × InMemoryMailboxStore :=
  self.asHolder dispatchId claimToken now false reasonClaimedSupersededByEpoch
    (fun dispatch => markAcked dispatch now)

def recordDispatchStart (self : InMemoryMailboxStore)
    (dispatchId claimToken dispatchInstanceId : String) (now : Nat) :
    Outcome StorageError Unit × InMemoryMailboxStore :=
  self.asHolder dispatchId claimToken now true reasonClaimedSupersededBeforeStart
    (fun dispatch =>
      let r := dispatch.recordDispatchStart dispatchInstanceId now
      (Outcome.ofExcept r.1, r.2))

def recordRunResult (self : InMemoryMailboxStore) (dispatchId claimToken : String)
    (result : RunDispatchResult) (now : Nat) : Outcome StorageError Unit × InMemoryMailboxStore :=
  self.asHolder dispatchId claimToken now true reasonClaimedSupersededBeforeResult
    (fun dispatch =>
      let r := dispatch.recordRunResult result now
      (Outcome.ofExcept r.1, r.2))

def nack (self : InMemoryMailboxStore) (dispatchId claimToken : String) (retryAt : Nat)
    (error : String) (now : Nat) : Outcome StorageError Unit × InMemoryMailboxStore :=
  self.asHolder dispatchId claimToken now false reasonClaimedSupersededBeforeNack
    (fun dispatch => markNackResult dispatch now retryAt error)

def deadLetter (self : InMemoryMailboxStore) (dispatchId claimToken error : String) (now : Nat) :
    Outcome StorageError Unit × InMemoryMailboxStore :=
  self.asHolder dispatchId claimToken now false reasonClaimedSupersededBeforeDeadLetter
    (fun dispatch => markDeadLetter dispatch now error)

def cancel (self : InMemoryMailboxStore) (dispatchId : String) (now : Nat) :
    Outcome StorageError (Option RunDispatch) × InMemoryMailboxStore :=
  match self.get dispatchId with
  | none => (.ok none, self)
  | some dispatch =>
    if dispatch.status ≠ .queued then (.ok none, self)
    else
      let r := markCancelled dispatch now
      (r.1.map (fun _ => some r.2), self.put dispatchId r.2)

def extendLease (self : InMemoryMailboxStore) (dispatchId claimToken : String)
    (extensionMs now : Nat) : Outcome StorageError Bool × InMemoryMailboxStore :=
  match self.get dispatchId with
  | none => (.ok false, self)
  | some dispatch =>
    if dispatch.status ≠ .claimed ∨ dispatch.claimToken ≠ some claimToken then (.ok false, self)
    else
      let currentEpoch := self.epoch dispatch.threadId
      if dispatch.dispatchEpoch < currentEpoch then
        let r := markSupersededAtEpoch dispatch now currentEpoch
          (some reasonClaimedSupersededDuringLeaseRenewal)
        (r.1.map (fun _ => false), self.put dispatchId r.2)
      else
        let r := dispatch.extendLease (now + extensionMs) now
        ((Outcome.ofExcept r.1).map (fun _ => true), self.put dispatchId r.2)

/-- What the interrupt loop collects: the active dispatch and the superseded ones in order. -/
structure Interrupted where
  activeDispatch : Option RunDispatch
  supersededDispatches : List RunDispatch

def interruptOne (threadId : String) (oldDispatchEpoch now : Nat) (found : Interrupted)
    (dispatch : RunDispatch) : Outcome StorageError Interrupted × RunDispatch :=
  if dispatch.threadId ≠ threadId then (.ok found, dispatch)
  else
    match dispatch.status with
    | .queued =>
      if dispatch.dispatchEpoch ≤ oldDispatchEpoch then
        let r := markSuperseded dispatch now (some reasonQueuedSupersededByInterrupt)
        (r.1.map (fun _ =>
          { found with supersededDispatches := found.supersededDispatches ++ [r.2] }), r.2)
      else (.ok found, dispatch)
    | .claimed => (.ok { found with activeDispatch := some dispatch }, dispatch)
    | _ => (.ok found, dispatch)

def interruptDetailed (self : InMemoryMailboxStore) (threadId : String) (now : Nat) :
    Outcome StorageError MailboxInterruptDetails × InMemoryMailboxStore :=
  let oldDispatchEpoch := self.epoch threadId
  let newDispatchEpoch := oldDispatchEpoch + 1
  let r := self.dispatches.sweep (interruptOne threadId oldDispatchEpoch now) ⟨none, []⟩
  (r.1.map (fun found =>
      { newDispatchEpoch := newDispatchEpoch, activeDispatch := found.activeDispatch,
        supersededCount := found.supersededDispatches.length,
        supersededDispatches := found.supersededDispatches }),
    { dispatches := r.2, state := self.state.insert threadId ⟨newDispatchEpoch⟩ })

def interrupt (self : InMemoryMailboxStore) (threadId : String) (now : Nat) :
    Outcome StorageError MailboxInterrupt × InMemoryMailboxStore :=
  let r := self.interruptDetailed threadId now
  (r.1.map (·.intoSummary), r.2)

def supersedeClaimed (self : InMemoryMailboxStore) (dispatchId claimToken : String) (now : Nat)
    (reason : String) : Outcome StorageError (Option RunDispatch) × InMemoryMailboxStore :=
  match self.get dispatchId with
  | none => (.ok none, self)
  | some dispatch =>
    if dispatch.status ≠ .claimed then (.ok none, self)
    else if dispatch.claimToken ≠ some claimToken then (.err (.versionConflict 0 1), self)
    else
      let currentEpoch := self.epoch dispatch.threadId
      let r := markSupersededAtEpoch dispatch now (max dispatch.dispatchEpoch currentEpoch)
        (some reason)
      (r.1.map (fun _ => some r.2), self.put dispatchId r.2)

def listDispatches (self : InMemoryMailboxStore) (threadId : String)
    (statusFilter : Option (List RunDispatchStatus)) (limit offset : Nat) : List RunDispatch :=
  (((self.dispatches.values.filter (fun j =>
      j.threadId = threadId && (statusFilter.map (fun sf => decide (j.status ∈ sf))).getD true)).insertionSort
    (fun a b => servedBefore a b)).drop offset).take limit

def countDispatchesByStatus (self : InMemoryMailboxStore) (status : RunDispatchStatus) : Nat :=
  (self.dispatches.values.filter (fun dispatch => dispatch.status = status)).length

def endedBefore (a b : RunDispatch) : Bool :=
  a.updatedAt < b.updatedAt || (a.updatedAt = b.updatedAt &&
    (a.createdAt < b.createdAt || (a.createdAt = b.createdAt && a.dispatchId ≤ b.dispatchId)))

def listTerminalDispatches (self : InMemoryMailboxStore) (limit offset : Nat) : List RunDispatch :=
  (((self.dispatches.values.filter (fun dispatch => dispatch.status.isTerminal)).insertionSort
    (fun a b => endedBefore a b)).drop offset).take limit

def isExpired (now : Nat) (dispatch : RunDispatch) : Bool :=
  dispatch.status = .claimed && dispatch.leaseUntil.any (· < now)

def reclaimOne (state : Table String MailboxState) (now : Nat) (dispatch : RunDispatch) :
    Outcome StorageError (Option RunDispatch) × RunDispatch :=
  let currentEpoch := currentEpochFromState state dispatch.threadId
  if dispatch.dispatchEpoch < currentEpoch then
    let r := markSupersededAtEpoch dispatch now currentEpoch
      (some reasonClaimedLeaseExpiredAfterInterrupt)
    (r.1.map (fun _ => none), r.2)
  else
    let r := markExpiredLease dispatch now
    (r.1.map (fun _ => some r.2), r.2)

def reclaimExpiredLeases (self : InMemoryMailboxStore) (now limit : Nat) :
    Outcome StorageError (List RunDispatch) × InMemoryMailboxStore :=
  let expiredIds := ((self.dispatches.values.filter (isExpired now)).take limit).map (·.dispatchId)
  let r := self.dispatches.updateEach (reclaimOne self.state now) .notFound expiredIds
  (r.1, { self with dispatches := r.2 })

def isPurgeable (olderThan : Nat) (dispatch : RunDispatch) : Bool :=
  dispatch.status.isTerminal && dispatch.updatedAt < olderThan

def purgeTerminal (self : InMemoryMailboxStore) (olderThan : Nat) :
    Outcome StorageError Nat × InMemoryMailboxStore :=
  let dispatches := self.dispatches.filter (fun _ j => !isPurgeable olderThan j)
  let state := self.state.filter (fun threadId _ =>
    decide (threadId ∈ dispatches.values.map (·.threadId)))
  (.ok (self.dispatches.entries.length - dispatches.entries.length),
    { dispatches := dispatches, state := state })

def queuedThreadIds (self : InMemoryMailboxStore) : List String :=
  ((self.dispatches.values.filter (fun j => j.status = .queued)).map (·.threadId)).dedup.insertionSort
    (· ≤ ·)

def exec (op : MailboxOp) (self : InMemoryMailboxStore) :
    Outcome StorageError MailboxResp × InMemoryMailboxStore :=
  match op with
  | .enqueue dispatch =>
    let r := self.enqueue dispatch
    (r.1.map (fun _ => .unit), r.2)
  | .claim threadId consumerId leaseMs now limit token =>
    let r := self.claim threadId consumerId leaseMs now limit token
    (r.1.map .dispatches, r.2)
  | .claimDispatch dispatchId consumerId leaseMs now token =>
    let r := self.claimDispatch dispatchId consumerId leaseMs now token
    (r.1.map .dispatch, r.2)
  | .ack dispatchId claimToken now =>
    let r := self.ack dispatchId claimToken now
    (r.1.map (fun _ => .unit), r.2)
  | .recordDispatchStart dispatchId claimToken dispatchInstanceId now =>
    let r := self.recordDispatchStart dispatchId claimToken dispatchInstanceId now
    (r.1.map (fun _ => .unit), r.2)
  | .recordRunResult dispatchId claimToken result now =>
    let r := self.recordRunResult dispatchId claimToken result now
    (r.1.map (fun _ => .unit), r.2)
  | .nack dispatchId claimToken retryAt error now =>
    let r := self.nack dispatchId claimToken retryAt error now
    (r.1.map (fun _ => .unit), r.2)
  | .deadLetter dispatchId claimToken error now =>
    let r := self.deadLetter dispatchId claimToken error now
    (r.1.map (fun _ => .unit), r.2)
  | .cancel dispatchId now =>
    let r := self.cancel dispatchId now
    (r.1.map .dispatch, r.2)
  | .extendLease dispatchId claimToken extensionMs now =>
    let r := self.extendLease dispatchId claimToken extensionMs now
    (r.1.map .flag, r.2)
  | .interrupt threadId now =>
    let r := self.interrupt threadId now
    (r.1.map .interrupt, r.2)
  | .interruptDetailed threadId now =>
    let r := self.interruptDetailed threadId now
    (r.1.map .details, r.2)
  | .currentDispatchEpoch threadId => (.ok (.count (self.epoch threadId)), self)
  | .supersedeClaimed dispatchId claimToken now reason =>
    let r := self.supersedeClaimed dispatchId claimToken now reason
    (r.1.map .dispatch, r.2)
  | .loadDispatch dispatchId => (.ok (.dispatch (self.get dispatchId)), self)
  | .listDispatches threadId statusFilter limit offset =>
    (.ok (.dispatches (self.listDispatches threadId statusFilter limit offset)), self)
  | .countDispatchesByStatus status => (.ok (.count (self.countDispatchesByStatus status)), self)
  | .listTerminalDispatches limit offset =>
    (.ok (.dispatches (self.listTerminalDispatches limit offset)), self)
  | .reclaimExpiredLeases now limit =>
    let r := self.reclaimExpiredLeases now limit
    (r.1.map .dispatches, r.2)
  | .purgeTerminal olderThan =>
    let r := self.purgeTerminal olderThan
    (r.1.map .count, r.2)
  | .queuedThreadIds => (.ok (.threads self.queuedThreadIds), self)

def Reorders (s t : InMemoryMailboxStore) : Prop :=
  s.dispatches.Reorders t.dispatches ∧ s.state = t.state

end InMemoryMailboxStore

open InMemoryMailboxStore

structure Call where
  op : MailboxOp
  resp : Outcome StorageError MailboxResp

def Step (s : InMemoryMailboxStore) (call : Call) (s' : InMemoryMailboxStore) : Prop :=
  ∃ t, s.Reorders t ∧ exec call.op t = (call.resp, s')

def execAll (s : InMemoryMailboxStore) (ops : List MailboxOp) : InMemoryMailboxStore :=
  ops.foldl (fun s op => (exec op s).2) s

def callTrace (s : InMemoryMailboxStore) : List MailboxOp → List (Transition InMemoryMailboxStore Call)
  | [] => []
  | op :: ops => ⟨s, ⟨op, (exec op s).1⟩, (exec op s).2⟩ :: callTrace (exec op s).2 ops

theorem step_exec (op : MailboxOp) (s : InMemoryMailboxStore) :
    Step s ⟨op, (exec op s).1⟩ (exec op s).2 := ⟨s, ⟨.refl _, rfl⟩, rfl⟩

theorem run_callTrace (s : InMemoryMailboxStore) (ops : List MailboxOp) :
    Run Step s (callTrace s ops) (execAll s ops) := by
  induction ops generalizing s with
  | nil => exact .nil s
  | cons op ops ih => exact .cons (step_exec op s) (ih _)

theorem reachable_execAll (ops : List MailboxOp) : Reachable Step new (execAll new ops) :=
  ⟨_, run_callTrace new ops⟩

end Awaken.Stores.MemoryMailbox
