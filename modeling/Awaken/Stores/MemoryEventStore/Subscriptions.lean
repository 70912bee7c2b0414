import Awaken.Lib.Broadcast
import Awaken.Lib.Run
import Awaken.Stores.MemoryEventStore.Log

namespace Awaken.Stores.MemoryEventStore

open Awaken.Lib Awaken.Contract.EventStore InMemoryEventState

variable {J D : Type}

structure Subscription (J : Type) where
  scope : EventScope
  startCursor : Option EventCursor
  history : List (CanonicalEvent J)
  rx : Broadcast.Receiver
  received : List (CanonicalEvent J)
  lagged : Bool

structure PageReader (J : Type) where
  scope : EventScope
  origin : Option EventCursor
  cursor : Option EventCursor
  collected : List (CanonicalEvent J)
  finished : Bool

structure World (J D : Type) where
  state : InMemoryEventState J D
  tx : Broadcast (CanonicalEvent J)
  subscriptions : List (Subscription J)
  readers : List (PageReader J)

inductive Call (J : Type) where
  | append (now : Nat) (draft : CanonicalEventDraft J) (options : AppendOptions)
  | subscribe (scope : EventScope) (start : SubscribeStart)
  | poll (id : Nat)
  | read (scope : EventScope) (cursor : Option EventCursor)
  | list (id : Nat) (limit : Nat)

def Subscription.poll (tx : Broadcast (CanonicalEvent J)) (self : Subscription J) :
    Subscription J :=
  match self.history with
  | event :: history => { self with history := history, received := self.received ++ [event] }
  | [] =>
    match tx.recv self.rx with
    | (.item event, rx) =>
      if self.scope ∈ event.scopes then
        { self with rx := rx, received := self.received ++ [event] }
      else { self with rx := rx }
    | (.lagged _, rx) => { self with rx := rx, lagged := true }
    | (.pending, _) => self

def PageReader.take (page : EventPage J) (self : PageReader J) : PageReader J :=
  { self with
    cursor := page.nextCursor.or self.cursor
    collected := self.collected ++ page.events
    finished := !page.hasMore }

def PageReader.list (state : InMemoryEventState J D) (limit : Nat) (self : PageReader J) :
    PageReader J :=
  if self.finished then self
  else
    match state.listLocked self.scope self.cursor (some limit) with
    | .ok page => self.take page
    | .error _ => self

namespace World

def new : World J D := ⟨.default, ⟨1024, []⟩, [], []⟩

def log (self : World J D) : List (CanonicalEvent J) := self.tx.sent

/-- One call while it holds the lock, or one poll of a stream. -/
def step [DecidableEq D] (toVec : Basis J → Except String D) (self : World J D) : Call J → World J D
  | .append now draft options =>
    let (state, appended) := self.state.append toVec now draft options
    { self with state := state, tx := appended.sent.foldl Broadcast.send self.tx }
  | .subscribe scope start =>
    match self.state.subscribeLocked scope start with
    | .ok (startCursor, history) =>
      { self with subscriptions :=
          self.subscriptions ++ [⟨scope, startCursor, history, self.tx.subscribe, [], false⟩] }
    | .error _ => self
  | .poll id => { self with subscriptions := self.subscriptions.modify id (.poll self.tx) }
  | .read scope cursor =>
    { self with readers := self.readers ++ [⟨scope, cursor, cursor, [], false⟩] }
  | .list id limit => { self with readers := self.readers.modify id (.list self.state limit) }

end World

def StoreStep [DecidableEq D] (toVec : Basis J → Except String D) (w : World J D) (call : Call J)
    (w' : World J D) : Prop :=
  w' = w.step toVec call

section Invariant

variable {toVec : Basis J → Except String D} {w : World J D}

variable [DecidableEq D]

end Invariant

section Contract

variable {toVec : Basis J → Except String D} {w : World J D}
  {tr : List (Transition (World J D) (Call J))}

variable [DecidableEq D]

end Contract

end Awaken.Stores.MemoryEventStore
