import Awaken.Contract.ProtocolReplayLog
import Awaken.Lib.Joined

namespace Awaken.Stores.MemoryProtocolReplayLog

open Awaken.Lib Awaken.Contract.ProtocolReplay

structure InMemoryProtocolReplayState (J : Type) where
  nextRowSeq : Nat
  nextStreamSeq : Table ProtocolStreamKey Nat
  records : Table ProtocolReplayId (ProtocolReplayRecord J)
  streamIndexes : Table ProtocolStreamKey (List ProtocolReplayId)
  cursorPositions : Table (ProtocolStreamKey × ProtocolReplayCursor) Nat
  wireIndex : Table (String × String × String) ProtocolReplayId

variable {J : Type}

def replayRecordMatchesDraft [DecidableEq J] (record : ProtocolReplayRecord J)
    (draft : ProtocolReplayDraft J) : Bool :=
  decide (record.streamId = draft.streamId)
    && decide (record.protocol = draft.protocol)
    && decide (record.protocolVersion = draft.protocolVersion)
    && decide (record.projectorVersion = draft.projectorVersion)
    && decide (record.wireEventId = draft.wireEventId)
    && decide (record.wireEventType = draft.wireEventType)
    && decide (record.wirePayloadBytes = draft.wirePayloadBytes)
    && decide (record.wirePayloadJson = draft.wirePayloadJson)
    && decide (record.sourceEventIds = draft.sourceEventIds)
    && decide (record.sourceEventCursors = draft.sourceEventCursors)
    && decide (record.redactionState = draft.redactionState)
    && decide (record.expiresAt = draft.expiresAt)

def isExpired (record : ProtocolReplayRecord J) (now : Nat) : Bool :=
  record.expiresAt.any (· ≤ now)

lemma replayRecordMatchesDraft_iff [DecidableEq J] {record : ProtocolReplayRecord J}
    {draft : ProtocolReplayDraft J} :
    replayRecordMatchesDraft record draft = true ↔ record.draft = draft := by
  cases draft
  simp [replayRecordMatchesDraft, ProtocolReplayRecord.draft, and_assoc]

namespace InMemoryProtocolReplayState

def default : InMemoryProtocolReplayState J := ⟨0, .empty, .empty, .empty, .empty, .empty⟩

def index (self : InMemoryProtocolReplayState J) (stream : ProtocolStreamKey) :
    List ProtocolReplayId :=
  (self.streamIndexes.get stream).getD []

def store (self : InMemoryProtocolReplayState J) (now : Nat) (stream : ProtocolStreamKey)
    (draft : ProtocolReplayDraft J) :
    InMemoryProtocolReplayState J × Except ProtocolReplayError (ProtocolReplayRecord J) :=
  let self := { self with nextRowSeq := self.nextRowSeq + 1 }
  match ProtocolReplayId.new (numbered "pr_mem" self.nextRowSeq) with
  | .error error => (self, .error error)
  | .ok protocolReplayId =>
    let streamSeq := (self.nextStreamSeq.get stream).getD 0 + 1
    let self := { self with nextStreamSeq := self.nextStreamSeq.insert stream streamSeq }
    match ProtocolReplayCursor.new (numbered "prcur_mem" streamSeq) with
    | .error error => (self, .error error)
    | .ok cursor =>
      match ProtocolReplayRecord.fromAppend protocolReplayId cursor now draft with
      | .error error => (self, .error error)
      | .ok record =>
        let index := self.index stream
        ({ self with
          streamIndexes := self.streamIndexes.insert stream (index ++ [protocolReplayId])
          cursorPositions := self.cursorPositions.insert (stream, cursor) index.length
          wireIndex := self.wireIndex.insert record.wireIdentity protocolReplayId
          records := self.records.insert protocolReplayId record }, .ok record)

def replayed [DecidableEq J] (self : InMemoryProtocolReplayState J)
    (draft : ProtocolReplayDraft J) (existingId : ProtocolReplayId) :
    Except ProtocolReplayError (ProtocolReplayRecord J) :=
  match self.records.get existingId with
  | none => .error (.integrity
      s!"wire event index points at missing replay row: {existingId.1}" none)
  | some existing =>
    if replayRecordMatchesDraft existing draft then .ok existing
    else .error (.conflict
      s!"wire_event_id reused with different replay row: {draft.wireEventId}")

def appendReplay [DecidableEq J] (self : InMemoryProtocolReplayState J) (now : Nat)
    (draft : ProtocolReplayDraft J) :
    InMemoryProtocolReplayState J × Except ProtocolReplayError (ProtocolReplayRecord J) :=
  match draft.validate with
  | .error error => (self, .error error)
  | .ok () =>
    match ProtocolStreamKey.new draft.streamId draft.protocol draft.protocolVersion with
    | .error error => (self, .error error)
    | .ok stream =>
      match self.wireIndex.get draft.wireIdentity with
      | some existingId => (self, self.replayed draft existingId)
      | none => self.store now stream draft

def loadIndexed (self : InMemoryProtocolReplayState J) (replayId : ProtocolReplayId) :
    Except ProtocolReplayError (ProtocolReplayRecord J) :=
  match self.records.get replayId with
  | some record => .ok record
  | none => .error (.integrity "replay index points at missing row: " (some replayId.1))

def startOf (self : InMemoryProtocolReplayState J) (stream : ProtocolStreamKey) (now : Nat) :
    Option ProtocolReplayCursor → Except ProtocolReplayError Nat
  | none => .ok 0
  | some cursor =>
    match self.cursorPositions.get (stream, cursor) with
    | none => .error (.cursorExpired cursor.1)
    | some position =>
      match (self.index stream)[position]? with
      | none => .error (.cursorExpired cursor.1)
      | some recordId => do
        let record ← self.loadIndexed recordId
        if isExpired record now then .error (.cursorExpired cursor.1) else .ok (position + 1)

/-- The loop of `listLocked` with the records it has collected. -/
def collect (self : InMemoryProtocolReplayState J) (now limit : Nat)
    (records : List (ProtocolReplayRecord J)) :
    List ProtocolReplayId → Except ProtocolReplayError (List (ProtocolReplayRecord J) × Bool)
  | [] => .ok (records, false)
  | replayId :: ids => do
    let record ← self.loadIndexed replayId
    if isExpired record now then self.collect now limit records ids
    else if records.length = limit then .ok (records, true)
    else self.collect now limit (records ++ [record]) ids

def listLocked (self : InMemoryProtocolReplayState J) (stream : ProtocolStreamKey)
    (from_ : Option ProtocolReplayCursor) (now limit : Nat) :
    Except ProtocolReplayError (ProtocolReplayPage J) := do
  let ids := self.index stream
  let start ← self.startOf stream now from_
  let (records, hasMore) ← self.collect now limit [] (ids.drop start)
  let nextCursor :=
    if hasMore then records.getLast?.map (·.protocolReplayCursor) else none
  return ⟨records, nextCursor, hasMore⟩

def listReplay (self : InMemoryProtocolReplayState J) (stream : ProtocolStreamKey)
    (from_ : Option ProtocolReplayCursor) (now limit : Nat) :
    Except ProtocolReplayError (ProtocolReplayPage J) := do
  stream.validate
  self.listLocked stream from_ now limit

end InMemoryProtocolReplayState

end Awaken.Stores.MemoryProtocolReplayLog
