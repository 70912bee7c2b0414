import Mathlib.Data.Finset.Card
import Awaken.Contract.Mailbox
import Awaken.Lib.Table

namespace Awaken.Stores.NatsMailbox

open Awaken.Lib Awaken.Contract.Mailbox

def statusKey (status : RunDispatchStatus) : String := status.debug

structure IndexedDispatch where
  dispatch : RunDispatch
  revision : Option Nat
deriving DecidableEq

structure DispatchIndex where
  byId : Table String IndexedDispatch
  byThread : Table String (List String)
  byStatus : Table String (Finset String)

namespace DispatchIndex

def default : DispatchIndex := ⟨.empty, .empty, .empty⟩

def outdated (prev : IndexedDispatch) (dispatch : RunDispatch) (revision : Option Nat) : Bool :=
  (match prev.revision, revision with
    | some prevRevision, some incomingRevision => decide (incomingRevision < prevRevision)
    | _, _ => false) ||
  (revision.isNone && decide (dispatch.updatedAt < prev.dispatch.updatedAt))

def storeIndexed (self : DispatchIndex) (dispatch : RunDispatch) (revision : Option Nat) :
    DispatchIndex :=
  let id := dispatch.dispatchId
  { self with
    byStatus := self.byStatus.insert (statusKey dispatch.status)
      (insert id ((self.byStatus.get (statusKey dispatch.status)).getD ∅))
    byId := self.byId.insert id ⟨dispatch, revision⟩ }

def upsertInner (self : DispatchIndex) (dispatch : RunDispatch) (revision : Option Nat)
    (force : Bool) : DispatchIndex :=
  let id := dispatch.dispatchId
  match self.byId.get id with
  | some prev =>
    if !force && outdated prev dispatch revision then self
    else
      let byStatus := self.byStatus.modify (statusKey prev.dispatch.status) (·.erase id)
      { self with byStatus := byStatus }.storeIndexed dispatch revision
  | none =>
    let byThread := self.byThread.insert dispatch.threadId
      ((self.byThread.get dispatch.threadId).getD [] ++ [id])
    { self with byThread := byThread }.storeIndexed dispatch revision

def upsert (self : DispatchIndex) (dispatch : RunDispatch) : DispatchIndex :=
  self.upsertInner dispatch none false

def upsertWithRevision (self : DispatchIndex) (dispatch : RunDispatch) (revision : Nat) :
    DispatchIndex :=
  self.upsertInner dispatch (some revision) false

/-- `ids.retain` with the thread removed once it has no ids. -/
def withoutId (byThread : Table String (List String)) (threadId dispatchId : String) :
    Table String (List String) :=
  match byThread.get threadId with
  | none => byThread
  | some ids =>
    let ids := ids.filter (· ≠ dispatchId)
    if ids.isEmpty then byThread.remove threadId else byThread.insert threadId ids

def removeIndexed (self : DispatchIndex) (dispatchId : String) (indexed : IndexedDispatch) :
    DispatchIndex where
  byId := self.byId.remove dispatchId
  byStatus := self.byStatus.modify (statusKey indexed.dispatch.status) (·.erase dispatchId)
  byThread := withoutId self.byThread indexed.dispatch.threadId dispatchId

def removeInner (self : DispatchIndex) (dispatchId : String) (revision : Option Nat) :
    DispatchIndex :=
  match self.byId.get dispatchId with
  | none => self
  | some indexed =>
    match revision, indexed.revision with
    | some incomingRevision, some currentRevision =>
      if incomingRevision < currentRevision then self else self.removeIndexed dispatchId indexed
    | _, _ => self.removeIndexed dispatchId indexed

def removeWithRevision (self : DispatchIndex) (dispatchId : String) (revision : Nat) :
    DispatchIndex :=
  self.removeInner dispatchId (some revision)

def get (self : DispatchIndex) (dispatchId : String) : Option RunDispatch :=
  (self.byId.get dispatchId).map (·.dispatch)

def threadIds (self : DispatchIndex) (threadId : String) : List String :=
  (self.byThread.get threadId).getD []

def statusIds (self : DispatchIndex) (status : RunDispatchStatus) : Finset String :=
  (self.byStatus.get (statusKey status)).getD ∅

end DispatchIndex

inductive KvEntry where
  | value (dispatch : RunDispatch) (revision : Nat)
  | tombstone (dispatchId : String) (revision : Nat)
deriving DecidableEq

def KvEntry.revision : KvEntry → Nat
  | value _ revision | tombstone _ revision => revision

def KvEntry.dispatchId : KvEntry → String
  | value dispatch _ => dispatch.dispatchId
  | tombstone dispatchId _ => dispatchId

def applyEntry (index : DispatchIndex) : KvEntry → DispatchIndex
  | .value dispatch revision => index.upsertWithRevision dispatch revision
  | .tombstone dispatchId revision => index.removeWithRevision dispatchId revision

end Awaken.Stores.NatsMailbox
