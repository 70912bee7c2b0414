import Awaken.Contract.EventStore

namespace Awaken.Contract.ProtocolReplay

open Awaken.Lib Awaken.Lib.Text
open Awaken.Contract.EventStore (NonBlank CanonicalEventId EventScope EventCursor)

/-- A row that a text prints in its debug form is kept beside the text. -/
inductive ProtocolReplayError where
  | validation (message : String)
  | conflict (message : String)
  | cursorExpired (cursor : String)
  | integrity (message : String) (replayId : Option String)
deriving DecidableEq

def rejectBlank (field value : String) : Except ProtocolReplayError Unit :=
  if isBlank value then .error (.validation s!"{field} is required") else .ok ()

def newNonBlank (field value : String) : Except ProtocolReplayError NonBlank :=
  if h : isBlank value = false then .ok ⟨value, h⟩
  else .error (.validation s!"{field} is required")

abbrev ProtocolReplayId := NonBlank

abbrev ProtocolReplayCursor := NonBlank

def ProtocolReplayId.new (value : String) : Except ProtocolReplayError ProtocolReplayId :=
  newNonBlank "protocol_replay_id" value

def ProtocolReplayCursor.new (value : String) :
    Except ProtocolReplayError ProtocolReplayCursor :=
  newNonBlank "protocol_replay_cursor" value

inductive ProtocolReplayRedactionState where
  | clear
  | redacted
deriving DecidableEq

structure SourceEventCursor where
  eventId : CanonicalEventId
  scope : EventScope
  cursor : EventCursor
deriving DecidableEq

structure ProtocolReplayDraft (J : Type) where
  streamId : String
  protocol : String
  protocolVersion : String
  projectorVersion : String
  wireEventId : String
  wireEventType : String
  wirePayloadBytes : List UInt8
  wirePayloadJson : Option J
  sourceEventIds : List CanonicalEventId
  sourceEventCursors : List SourceEventCursor
  redactionState : ProtocolReplayRedactionState
  expiresAt : Option Nat
deriving DecidableEq

structure ProtocolReplayRecord (J : Type) where
  protocolReplayId : ProtocolReplayId
  streamId : String
  protocol : String
  protocolVersion : String
  projectorVersion : String
  wireEventId : String
  wireEventType : String
  wirePayloadBytes : List UInt8
  wirePayloadJson : Option J
  sourceEventIds : List CanonicalEventId
  sourceEventCursors : List SourceEventCursor
  protocolReplayCursor : ProtocolReplayCursor
  redactionState : ProtocolReplayRedactionState
  expiresAt : Option Nat
  createdAt : Nat
deriving DecidableEq

structure ProtocolStreamKey where
  streamId : String
  protocol : String
  protocolVersion : String
deriving DecidableEq

structure ProtocolReplayPage (J : Type) where
  records : List (ProtocolReplayRecord J)
  nextCursor : Option ProtocolReplayCursor
  hasMore : Bool

variable {J : Type}

namespace ProtocolStreamKey

def validate (self : ProtocolStreamKey) : Except ProtocolReplayError Unit := do
  rejectBlank "stream_id" self.streamId
  rejectBlank "protocol" self.protocol
  rejectBlank "protocol_version" self.protocolVersion

def new (streamId protocol protocolVersion : String) :
    Except ProtocolReplayError ProtocolStreamKey := do
  let key : ProtocolStreamKey := ⟨streamId, protocol, protocolVersion⟩
  key.validate
  return key

end ProtocolStreamKey

namespace ProtocolReplayDraft

def validate (self : ProtocolReplayDraft J) : Except ProtocolReplayError Unit := do
  rejectBlank "stream_id" self.streamId
  rejectBlank "protocol" self.protocol
  rejectBlank "protocol_version" self.protocolVersion
  rejectBlank "projector_version" self.projectorVersion
  rejectBlank "wire_event_id" self.wireEventId
  rejectBlank "wire_event_type" self.wireEventType
  if self.wirePayloadBytes.isEmpty then .error (.validation "wire_payload_bytes is required")
  else .ok ()

def stream (self : ProtocolReplayDraft J) : ProtocolStreamKey :=
  ⟨self.streamId, self.protocol, self.protocolVersion⟩

def wireIdentity (self : ProtocolReplayDraft J) : String × String × String :=
  (self.protocol, self.protocolVersion, self.wireEventId)

lemma validate_stream {self : ProtocolReplayDraft J} (h : self.validate = .ok ()) :
    ProtocolStreamKey.new self.streamId self.protocol self.protocolVersion = .ok self.stream := by
  obtain ⟨_, hstream, h⟩ := bind_eq_ok h
  obtain ⟨_, hprotocol, h⟩ := bind_eq_ok h
  obtain ⟨_, hversion, -⟩ := bind_eq_ok h
  simp only [ProtocolStreamKey.new, ProtocolStreamKey.validate, hstream, hprotocol, hversion]
  rfl

end ProtocolReplayDraft

namespace ProtocolReplayRecord

def fromAppend (protocolReplayId : ProtocolReplayId)
    (protocolReplayCursor : ProtocolReplayCursor) (createdAt : Nat)
    (draft : ProtocolReplayDraft J) : Except ProtocolReplayError (ProtocolReplayRecord J) := do
  draft.validate
  return {
    protocolReplayId := protocolReplayId
    streamId := draft.streamId
    protocol := draft.protocol
    protocolVersion := draft.protocolVersion
    projectorVersion := draft.projectorVersion
    wireEventId := draft.wireEventId
    wireEventType := draft.wireEventType
    wirePayloadBytes := draft.wirePayloadBytes
    wirePayloadJson := draft.wirePayloadJson
    sourceEventIds := draft.sourceEventIds
    sourceEventCursors := draft.sourceEventCursors
    protocolReplayCursor := protocolReplayCursor
    redactionState := draft.redactionState
    expiresAt := draft.expiresAt
    createdAt := createdAt }

def draft (self : ProtocolReplayRecord J) : ProtocolReplayDraft J where
  streamId := self.streamId
  protocol := self.protocol
  protocolVersion := self.protocolVersion
  projectorVersion := self.projectorVersion
  wireEventId := self.wireEventId
  wireEventType := self.wireEventType
  wirePayloadBytes := self.wirePayloadBytes
  wirePayloadJson := self.wirePayloadJson
  sourceEventIds := self.sourceEventIds
  sourceEventCursors := self.sourceEventCursors
  redactionState := self.redactionState
  expiresAt := self.expiresAt

def stream (self : ProtocolReplayRecord J) : ProtocolStreamKey :=
  ⟨self.streamId, self.protocol, self.protocolVersion⟩

def wireIdentity (self : ProtocolReplayRecord J) : String × String × String :=
  (self.protocol, self.protocolVersion, self.wireEventId)

lemma fromAppend_eq (protocolReplayId : ProtocolReplayId) (cursor : ProtocolReplayCursor)
    (createdAt : Nat) {draft : ProtocolReplayDraft J} (h : draft.validate = .ok ()) :
    ∃ record : ProtocolReplayRecord J,
      fromAppend protocolReplayId cursor createdAt draft = .ok record ∧
      record.protocolReplayId = protocolReplayId ∧ record.protocolReplayCursor = cursor ∧
      record.draft = draft := by
  simp only [fromAppend, h]
  exact ⟨_, rfl, rfl, rfl, rfl⟩

end ProtocolReplayRecord

end Awaken.Contract.ProtocolReplay
