import Awaken.Contract.EventStore
import Awaken.Lib.Joined

namespace Awaken.Stores.MemoryEventStore

open Awaken.Lib Awaken.Contract.EventStore

structure IdempotencyRecord (D : Type) where
  digest : D
  eventId : CanonicalEventId

structure InMemoryEventState (J D : Type) where
  nextEventSeq : Nat
  nextScopeSeq : Table EventScope Nat
  events : Table CanonicalEventId (CanonicalEvent J)
  scopeIndexes : Table EventScope (List CanonicalEventId)
  cursorPositions : Table (EventScope × EventCursor) Nat
  idempotency : Table (String × String) (IdempotencyRecord D)

structure Appended (J : Type) where
  sent : List (CanonicalEvent J)
  result : Except EventStoreError (CanonicalEvent J)

variable {J D : Type} [DecidableEq D]

def validateExpectedCursorScopes (draft : CanonicalEventDraft J) (options : AppendOptions) :
    Except EventStoreError Unit :=
  options.expectedPriorCursors.keys.forM (fun scope =>
    rejectIf (scope ∉ draft.scopes)
      (.validation "expected cursor scope is not in append scope set: " (.scope scope)))

/-- The checks that are made before the lock is taken. -/
def checkAppend (toVec : Basis J → Except String D) (draft : CanonicalEventDraft J)
    (options : AppendOptions) : Except EventStoreError (D × Option (String × String)) := do
  draft.validate
  options.validate
  validateExpectedCursorScopes draft options
  let digest ← draft.idempotencyDigest toVec
  let identity ← options.idempotencyIdentity
  return (digest, identity)

namespace InMemoryEventState

def default : InMemoryEventState J D := ⟨0, .empty, .empty, .empty, .empty, .empty⟩

def index (self : InMemoryEventState J D) (scope : EventScope) : List CanonicalEventId :=
  (self.scopeIndexes.get scope).getD []

def lastCursorLocked (self : InMemoryEventState J D) (scope : EventScope) : Option EventCursor :=
  ((self.index scope).getLast?.bind self.events.get).bind (·.cursorsByScope.get scope)

def validateExpectedPriorCursors (self : InMemoryEventState J D) (options : AppendOptions) :
    Except EventStoreError Unit :=
  options.expectedPriorCursors.entries.forM (fun (scope, expectedCursor) =>
    rejectIf (self.lastCursorLocked scope ≠ some expectedCursor)
      (.expectedCursorConflict "expected prior cursor mismatch for scope " (.scope scope)))

def replayed (self : InMemoryEventState J D) (digest : D) (identity : String × String)
    (record : IdempotencyRecord D) : Except EventStoreError (CanonicalEvent J) :=
  if record.digest ≠ digest then
    .error (.idempotencyConflict ("idempotency identity reused with different input: " ++
      s!"writer_id={identity.1}, idempotency_key={identity.2}"))
  else
    match self.events.get record.eventId with
    | some existing => .ok existing
    | none => .error (.integrity s!"idempotent event missing: {record.eventId.1}" .none)

def assignCursors (self : InMemoryEventState J D) (cursors : Table EventScope EventCursor) :
    List EventScope →
      InMemoryEventState J D × Except EventStoreError (Table EventScope EventCursor)
  | [] => (self, .ok cursors)
  | scope :: scopes =>
    let seq := (self.nextScopeSeq.get scope).getD 0 + 1
    let self := { self with nextScopeSeq := self.nextScopeSeq.insert scope seq }
    match EventCursor.new (numbered "cur_mem" seq) with
    | .error error => (self, .error error)
    | .ok cursor => self.assignCursors (cursors.insert scope cursor) scopes

def indexEvent (self : InMemoryEventState J D) (event : CanonicalEvent J) :
    List EventScope → InMemoryEventState J D × Except EventStoreError Unit
  | [] => (self, .ok ())
  | scope :: scopes =>
    match event.cursorsByScope.get scope with
    | none => (self, .error (.integrity "persisted event missing scope cursor" .none))
    | some cursor =>
      let index := self.index scope
      let self := { self with
        scopeIndexes := self.scopeIndexes.insert scope (index ++ [event.eventId])
        cursorPositions := self.cursorPositions.insert (scope, cursor) index.length }
      self.indexEvent event scopes

def remember (self : InMemoryEventState J D) (identity : Option (String × String)) (digest : D)
    (eventId : CanonicalEventId) : InMemoryEventState J D :=
  match identity with
  | some identity => { self with idempotency := self.idempotency.insert identity ⟨digest, eventId⟩ }
  | none => self

def store (self : InMemoryEventState J D) (now : Nat) (draft : CanonicalEventDraft J)
    (identity : Option (String × String)) (digest : D) : InMemoryEventState J D × Appended J :=
  let self := { self with nextEventSeq := self.nextEventSeq + 1 }
  match CanonicalEventId.new (numbered "evt_mem" self.nextEventSeq) with
  | .error error => (self, ⟨[], .error error⟩)
  | .ok eventId =>
    match self.assignCursors .empty draft.scopes with
    | (self, .error error) => (self, ⟨[], .error error⟩)
    | (self, .ok cursorsByScope) =>
      match CanonicalEvent.fromAppend eventId cursorsByScope now draft with
      | .error error => (self, ⟨[], .error error⟩)
      | .ok event =>
        match self.indexEvent event event.scopes with
        | (self, .error error) => (self, ⟨[], .error error⟩)
        | (self, .ok ()) =>
          let self := self.remember identity digest eventId
          ({ self with events := self.events.insert eventId event }, ⟨[event], .ok event⟩)

def append (toVec : Basis J → Except String D) (self : InMemoryEventState J D) (now : Nat)
    (draft : CanonicalEventDraft J) (options : AppendOptions) :
    InMemoryEventState J D × Appended J :=
  match checkAppend toVec draft options with
  | .error error => (self, ⟨[], .error error⟩)
  | .ok (digest, identity) =>
    match identity.bind (fun key => (self.idempotency.get key).map (self.replayed digest key)) with
    | some result => (self, ⟨[], result⟩)
    | none =>
      match self.validateExpectedPriorCursors options with
      | .error error => (self, ⟨[], .error error⟩)
      | .ok () => self.store now draft identity digest

def position (self : InMemoryEventState J D) (scope : EventScope) :
    Option EventCursor → Except EventStoreError Nat
  | none => .ok 0
  | some cursor =>
    match self.cursorPositions.get (scope, cursor) with
    | some position => .ok (position + 1)
    | none => .error (.cursorExpired cursor.1)

def loadIndexed (self : InMemoryEventState J D) (eventId : CanonicalEventId) :
    Except EventStoreError (CanonicalEvent J) :=
  match self.events.get eventId with
  | some event => .ok event
  | none => .error (.integrity "event index points at missing event: " (.eventId eventId.1))

/-- `none` is the limit of a caller that wants them all. -/
def listLocked (self : InMemoryEventState J D) (scope : EventScope) (cursor : Option EventCursor)
    (limit : Option Nat) : Except EventStoreError (EventPage J) := do
  let ids := self.index scope
  let start ← self.position scope cursor
  let stop := match limit with
    | some limit => min (start + limit) ids.length
    | none => ids.length
  let events ← ((ids.take stop).drop start).mapM self.loadIndexed
  let hasMore := decide (stop < ids.length)
  return {
    events := events
    nextCursor := if hasMore then events.getLast?.bind (·.cursorsByScope.get scope) else none
    hasMore := hasMore }

def subscribeLocked (self : InMemoryEventState J D) (scope : EventScope) :
    SubscribeStart → Except EventStoreError (Option EventCursor × List (CanonicalEvent J))
  | .fromStart => do
    let page ← self.listLocked scope none none
    return (none, page.events)
  | .fromCursor cursor => do
    let page ← self.listLocked scope (some cursor) none
    return (some cursor, page.events)
  | .fromNow => .ok (self.lastCursorLocked scope, [])

end InMemoryEventState

end Awaken.Stores.MemoryEventStore
