import Awaken.Lib.Outcome
import Awaken.Contract.Mailbox
import Awaken.Contract.Scope

/-! The adapter that gives a scope its own view of a shared mailbox store. The store behind it is
any function from an operation and a state to a response and the state left behind. -/

namespace Awaken.Contract.ScopedMailbox

open Awaken.Lib Awaken.Contract.Mailbox Awaken.Contract.Scope Awaken.Contract.Storage

def usizeMax : Nat := 18446744073709551615

section Keys

variable (scopeId : ScopeId)

def encodeDispatch (dispatch : RunDispatch) : RunDispatch :=
  { dispatch with
    dispatchId := scopedKey scopeId dispatch.dispatchId
    threadId := scopedKey scopeId dispatch.threadId
    runId := scopedKey scopeId dispatch.runId
    dedupeKey := dispatch.dedupeKey.map (scopedKey scopeId) }

def decodeDispatch (dispatch : RunDispatch) : Option RunDispatch := do
  let dispatchId ← unscopedKey scopeId dispatch.dispatchId
  let threadId ← unscopedKey scopeId dispatch.threadId
  let runId ← unscopedKey scopeId dispatch.runId
  return { dispatch with
    dispatchId := dispatchId
    threadId := threadId
    runId := runId
    dedupeKey := dispatch.dedupeKey.bind (unscopedKey scopeId) }

def encodeResult (result : RunDispatchResult) : RunDispatchResult :=
  { result with runId := scopedKey scopeId result.runId }

def encodeOp : MailboxOp → MailboxOp
  | .enqueue dispatch => .enqueue (encodeDispatch scopeId dispatch)
  | .claim threadId consumerId leaseMs now limit token =>
    .claim (scopedKey scopeId threadId) consumerId leaseMs now limit token
  | .claimDispatch dispatchId consumerId leaseMs now token =>
    .claimDispatch (scopedKey scopeId dispatchId) consumerId leaseMs now token
  | .ack dispatchId claimToken now => .ack (scopedKey scopeId dispatchId) claimToken now
  | .recordDispatchStart dispatchId claimToken dispatchInstanceId now =>
    .recordDispatchStart (scopedKey scopeId dispatchId) claimToken dispatchInstanceId now
  | .recordRunResult dispatchId claimToken result now =>
    .recordRunResult (scopedKey scopeId dispatchId) claimToken (encodeResult scopeId result) now
  | .nack dispatchId claimToken retryAt error now =>
    .nack (scopedKey scopeId dispatchId) claimToken retryAt error now
  | .deadLetter dispatchId claimToken error now =>
    .deadLetter (scopedKey scopeId dispatchId) claimToken error now
  | .cancel dispatchId now => .cancel (scopedKey scopeId dispatchId) now
  | .extendLease dispatchId claimToken extensionMs now =>
    .extendLease (scopedKey scopeId dispatchId) claimToken extensionMs now
  | .interrupt threadId now => .interrupt (scopedKey scopeId threadId) now
  | .interruptDetailed threadId now => .interruptDetailed (scopedKey scopeId threadId) now
  | .currentDispatchEpoch threadId => .currentDispatchEpoch (scopedKey scopeId threadId)
  | .supersedeClaimed dispatchId claimToken now reason =>
    .supersedeClaimed (scopedKey scopeId dispatchId) claimToken now reason
  | .loadDispatch dispatchId => .loadDispatch (scopedKey scopeId dispatchId)
  | .listDispatches threadId statusFilter limit offset =>
    .listDispatches (scopedKey scopeId threadId) statusFilter limit offset
  | .countDispatchesByStatus status => .countDispatchesByStatus status
  | .listTerminalDispatches limit offset => .listTerminalDispatches limit offset
  | .reclaimExpiredLeases now limit => .reclaimExpiredLeases now limit
  | .purgeTerminal olderThan => .purgeTerminal olderThan
  | .queuedThreadIds => .queuedThreadIds

def decodeResp : MailboxResp → MailboxResp
  | .unit => .unit
  | .flag value => .flag value
  | .count value => .count value
  | .dispatch value => .dispatch (value.bind (decodeDispatch scopeId))
  | .dispatches value => .dispatches (value.filterMap (decodeDispatch scopeId))
  | .interrupt value => .interrupt
    { newDispatchEpoch := value.newDispatchEpoch
      activeDispatch := value.activeDispatch.bind (decodeDispatch scopeId)
      supersededCount := value.supersededCount }
  | .details value => .details
    { newDispatchEpoch := value.newDispatchEpoch
      activeDispatch := value.activeDispatch.bind (decodeDispatch scopeId)
      supersededCount := (value.supersededDispatches.filterMap (decodeDispatch scopeId)).length
      supersededDispatches := value.supersededDispatches.filterMap (decodeDispatch scopeId) }
  | .threads value => .threads (value.filterMap (unscopedKey scopeId))

end Keys

def dispatchList : MailboxResp → List RunDispatch
  | .dispatches value => value
  | _ => []

def threadList : MailboxResp → List String
  | .threads value => value
  | _ => []

def andThen {σ ε α β : Type} (m : σ → Outcome ε α × σ) (f : α → σ → Outcome ε β × σ) (s : σ) :
    Outcome ε β × σ :=
  match m s with
  | (.ok a, s) => f a s
  | (.err e, s) => (.err e, s)
  | (.panic, s) => (.panic, s)

section Adapter

variable {σ : Type} (inner : MailboxOp → σ → Outcome StorageError MailboxResp × σ)
  (scopeId : ScopeId)

def forward (op : MailboxOp) (s : σ) : Outcome StorageError MailboxResp × σ :=
  let r := inner (encodeOp scopeId op) s
  (r.1.map (decodeResp scopeId), r.2)

def queuedThreadIds (s : σ) : Outcome StorageError (List String) × σ :=
  let r := forward inner scopeId .queuedThreadIds s
  (r.1.map threadList, r.2)

def listDispatches (threadId : String) (statusFilter : Option (List RunDispatchStatus))
    (limit offset : Nat) (s : σ) : Outcome StorageError (List RunDispatch) × σ :=
  let r := forward inner scopeId (.listDispatches threadId statusFilter limit offset) s
  (r.1.map dispatchList, r.2)

def listTerminalDispatches (limit offset : Nat) (s : σ) :
    Outcome StorageError (List RunDispatch) × σ :=
  let r := forward inner scopeId (.listTerminalDispatches usizeMax 0) s
  (r.1.map (fun resp => ((dispatchList resp).drop offset).take limit), r.2)

/-- The loop of the queued count over the queued threads. -/
def countQueued (total : Nat) : List String → σ → Outcome StorageError Nat × σ
  | [] => fun s => (.ok total, s)
  | threadId :: threadIds =>
    andThen (listDispatches inner scopeId threadId (some [.queued]) usizeMax 0)
      (fun dispatches => countQueued (total + dispatches.length) threadIds)

def countDispatchesByStatus (status : RunDispatchStatus) (s : σ) :
    Outcome StorageError Nat × σ :=
  match status with
  | .queued =>
    andThen (queuedThreadIds inner scopeId) (countQueued inner scopeId 0) s
  | status =>
    if status.isTerminal then
      let r := listTerminalDispatches inner scopeId usizeMax 0 s
      (r.1.map (fun all => (all.filter (fun dispatch => dispatch.status = status)).length), r.2)
    else (.err (.io "scoped claimed dispatch count is not supported"), s)

def exec (op : MailboxOp) (s : σ) : Outcome StorageError MailboxResp × σ :=
  match op with
  | .countDispatchesByStatus status =>
    let r := countDispatchesByStatus inner scopeId status s
    (r.1.map .count, r.2)
  | .listTerminalDispatches limit offset =>
    let r := listTerminalDispatches inner scopeId limit offset s
    (r.1.map .dispatches, r.2)
  | .purgeTerminal _ => (.err (.io "scoped terminal dispatch purge is not supported"), s)
  | op => forward inner scopeId op s

end Adapter

end Awaken.Contract.ScopedMailbox
