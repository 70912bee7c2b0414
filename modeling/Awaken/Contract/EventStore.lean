import Awaken.Lib.Table
import Awaken.Lib.Text

namespace Awaken.Contract.EventStore

open Awaken.Lib Awaken.Lib.Text

inductive EventScope where
  | thread (threadId : String)
  | run (runId : String)
deriving DecidableEq

inductive EventScopeFamily where
  | thread
  | run
deriving DecidableEq

def EventScope.family : EventScope → EventScopeFamily
  | .thread _ => .thread
  | .run _ => .run

/-- A value that a text prints in its debug form is kept beside the text. -/
inductive Detail where
  | none
  | scope (scope : EventScope)
  | family (family : EventScopeFamily)
  | eventId (eventId : String)
deriving DecidableEq

inductive EventStoreError where
  | validation (message : String) (detail : Detail)
  | idempotencyConflict (message : String)
  | expectedCursorConflict (message : String) (detail : Detail)
  | cursorExpired (cursor : String)
  | integrity (message : String) (detail : Detail)
  | io (message : String)
  | serialization (message : String)
deriving DecidableEq

def rejectIf (condition : Prop) [Decidable condition] (error : EventStoreError) :
    Except EventStoreError Unit :=
  if condition then .error error else .ok ()

lemma rejectIf_ok {condition : Prop} [Decidable condition] {error : EventStoreError} {u : Unit} :
    rejectIf condition error = .ok u ↔ ¬ condition := by
  by_cases h : condition <;> simp [rejectIf, h]

def rejectBlank (field value : String) : Except EventStoreError Unit :=
  rejectIf (isBlank value = true) (.validation s!"{field} is required" .none)

abbrev NonBlank := { value : String // isBlank value = false }

def NonBlank.new (field value : String) : Except EventStoreError NonBlank :=
  if h : isBlank value = false then .ok ⟨value, h⟩
  else .error (.validation s!"{field} is required" .none)

abbrev CanonicalEventId := NonBlank

abbrev EventCursor := NonBlank

abbrev CanonicalEventKind := NonBlank

def CanonicalEventId.new (value : String) : Except EventStoreError CanonicalEventId :=
  NonBlank.new "event_id" value

def EventCursor.new (value : String) : Except EventStoreError EventCursor :=
  NonBlank.new "cursor" value

def CanonicalEventKind.new (value : String) : Except EventStoreError CanonicalEventKind :=
  NonBlank.new "event_kind" value

structure EventScopeIds where
  threadId : Option String
  runId : Option String
deriving DecidableEq

inductive EventVisibility where
  | «public»
  | internal
  | audit
  | sensitive
deriving DecidableEq

inductive FidelityClass where
  | observedRuntimeEvent
  | committedRuntimeEvent
  | domainEvent
  | controlEvent
deriving DecidableEq

variable {J D : Type}

structure CanonicalEventDraft (J : Type) where
  scopes : List EventScope
  eventKind : CanonicalEventKind
  payload : J
  causationId : Option String
  correlationId : Option String
  origin : String
  visibility : EventVisibility
  schemaVersion : Nat
deriving DecidableEq

def validateScope : EventScope → Except EventStoreError Unit
  | .thread threadId => rejectBlank "thread_id" threadId
  | .run runId => rejectBlank "run_id" runId

/-- The loop of `validateScopeSet` with the scopes and the families it has seen. -/
def validateScopes (exactScopes : List EventScope) (families : List EventScopeFamily) :
    List EventScope → Except EventStoreError Unit
  | [] => .ok ()
  | scope :: scopes => do
    validateScope scope
    rejectIf (scope ∈ exactScopes) (.validation "duplicate event scope: " (.scope scope))
    rejectIf (scope.family ∈ families)
      (.validation "duplicate event scope family: " (.family scope.family))
    validateScopes (scope :: exactScopes) (scope.family :: families) scopes

def setOptionalId (slot : Option String) (value error : String) :
    Except EventStoreError (Option String) :=
  match slot with
  | some existing => if existing = value then .ok slot else .error (.validation error .none)
  | none => .ok (some value)

def deriveScopeId (ids : EventScopeIds) : EventScope → Except EventStoreError EventScopeIds
  | .thread threadId => do
    let slot ← setOptionalId ids.threadId threadId "thread_id contradicts scope membership"
    return { ids with threadId := slot }
  | .run runId => do
    let slot ← setOptionalId ids.runId runId "run_id contradicts scope membership"
    return { ids with runId := slot }

def deriveScopeIds (scopes : List EventScope) : Except EventStoreError EventScopeIds :=
  scopes.foldlM deriveScopeId ⟨none, none⟩

def validateScopeSet (scopes : List EventScope) : Except EventStoreError Unit := do
  rejectIf (scopes = []) (.validation "at least one event scope is required" .none)
  validateScopes [] [] scopes
  let _ ← deriveScopeIds scopes
  return ()

lemma validateScopes_ok {exactScopes : List EventScope} {families : List EventScopeFamily}
    {scopes : List EventScope} (h : validateScopes exactScopes families scopes = .ok ()) :
    (∀ scope ∈ scopes, scope.family ∉ families) ∧ (scopes.map EventScope.family).Nodup := by
  induction scopes generalizing exactScopes families with
  | nil => exact ⟨by simp, by simp⟩
  | cons scope scopes ih =>
    obtain ⟨_, -, h⟩ := bind_eq_ok h
    obtain ⟨_, -, h⟩ := bind_eq_ok h
    obtain ⟨_, hfamily, h⟩ := bind_eq_ok h
    rw [rejectIf_ok] at hfamily
    obtain ⟨hmem, hnodup⟩ := ih h
    refine ⟨?_, ?_⟩
    · intro s hs
      rcases List.mem_cons.mp hs with rfl | hs
      · exact hfamily
      · exact fun hm => hmem s hs (List.mem_cons_of_mem _ hm)
    · rw [List.map_cons, List.nodup_cons]
      refine ⟨?_, hnodup⟩
      intro hm
      obtain ⟨s, hs, he⟩ := List.mem_map.mp hm
      exact hmem s hs (he ▸ List.mem_cons_self)

lemma validateScopeSet_ok {scopes : List EventScope} (h : validateScopeSet scopes = .ok ()) :
    scopes.Nodup ∧ ∃ ids, deriveScopeIds scopes = .ok ids := by
  obtain ⟨_, -, h⟩ := bind_eq_ok h
  obtain ⟨_, hscopes, h⟩ := bind_eq_ok h
  obtain ⟨ids, hids, -⟩ := bind_eq_ok h
  exact ⟨(validateScopes_ok hscopes).2.of_map _, ids, hids⟩

lemma validateScopeSet_thread_run (threadId runId : String) :
    validateScopeSet [.thread threadId, .run runId] = (do
      rejectBlank "thread_id" threadId
      rejectBlank "run_id" runId) := by
  by_cases ht : isBlank threadId = true <;> by_cases hr : isBlank runId = true <;>
    simp [validateScopeSet, validateScopes, validateScope, rejectBlank, rejectIf, ht, hr,
      EventScope.family, deriveScopeIds, deriveScopeId, setOptionalId] <;> rfl

structure Basis (J : Type) where
  scopes : List EventScope
  eventKind : CanonicalEventKind
  payload : J
  visibility : EventVisibility
  causationId : Option String
  correlationId : Option String
deriving DecidableEq

namespace CanonicalEventDraft

def validate (self : CanonicalEventDraft J) : Except EventStoreError Unit := do
  validateScopeSet self.scopes
  rejectBlank "origin" self.origin
  rejectIf (self.schemaVersion = 0)
    (.validation "schema_version must be greater than 0" .none)

def new (scopes : List EventScope) (eventKind : CanonicalEventKind) (payload : J)
    (origin : String) : Except EventStoreError (CanonicalEventDraft J) := do
  let draft : CanonicalEventDraft J := {
    scopes := scopes
    eventKind := eventKind
    payload := payload
    causationId := none
    correlationId := none
    origin := origin
    visibility := .public
    schemaVersion := 1 }
  draft.validate
  return draft

lemma validate_thread_run {self : CanonicalEventDraft J} {threadId runId : String}
    (hs : self.scopes = [.thread threadId, .run runId]) (ho : isBlank self.origin = false)
    (hv : self.schemaVersion ≠ 0) :
    self.validate = (do
      rejectBlank "thread_id" threadId
      rejectBlank "run_id" runId) := by
  rw [validate, hs, validateScopeSet_thread_run]
  by_cases ht : isBlank threadId = true <;> by_cases hr : isBlank runId = true <;>
    simp [rejectBlank, rejectIf, ht, hr, ho, hv] <;> rfl

def scopeIds (self : CanonicalEventDraft J) : Except EventStoreError EventScopeIds :=
  deriveScopeIds self.scopes

lemma validate_ok {self : CanonicalEventDraft J} (h : self.validate = .ok ()) :
    self.scopes.Nodup ∧ ∃ ids, self.scopeIds = .ok ids := by
  obtain ⟨_, hscopes, -⟩ := bind_eq_ok h
  exact validateScopeSet_ok hscopes

def idempotencyDigest (toVec : Basis J → Except String D) (self : CanonicalEventDraft J) :
    Except EventStoreError D :=
  match toVec ⟨self.scopes, self.eventKind, self.payload, self.visibility, self.causationId,
    self.correlationId⟩ with
  | .ok digest => .ok digest
  | .error error => .error (.serialization error)

end CanonicalEventDraft

structure AppendOptions where
  writerId : Option String
  idempotencyKey : Option String
  expectedPriorCursors : Table EventScope EventCursor

namespace AppendOptions

def validate (self : AppendOptions) : Except EventStoreError Unit :=
  match self.idempotencyKey with
  | some key => do
    rejectBlank "writer_id" (self.writerId.getD "")
    rejectBlank "idempotency_key" key
  | none => .ok ()

def idempotencyIdentity (self : AppendOptions) :
    Except EventStoreError (Option (String × String)) := do
  self.validate
  return match self.writerId, self.idempotencyKey with
    | some writerId, some key => some (writerId, key)
    | _, _ => none

end AppendOptions

structure CanonicalEvent (J : Type) where
  eventId : CanonicalEventId
  scopes : List EventScope
  cursorsByScope : Table EventScope EventCursor
  eventKind : CanonicalEventKind
  payload : J
  threadId : Option String
  runId : Option String
  causationId : Option String
  correlationId : Option String
  origin : String
  visibility : EventVisibility
  schemaVersion : Nat
  createdAt : Nat

def validateCursorCoverage (scopes : List EventScope) (cursors : Table EventScope EventCursor) :
    Except EventStoreError Unit :=
  if scopes.all (· ∈ cursors.keys) && cursors.keys.all (· ∈ scopes) then .ok ()
  else .error (.validation "cursors_by_scope must exactly match event scopes" .none)

def CanonicalEvent.fromAppend (eventId : CanonicalEventId)
    (cursorsByScope : Table EventScope EventCursor) (createdAt : Nat)
    (draft : CanonicalEventDraft J) : Except EventStoreError (CanonicalEvent J) := do
  draft.validate
  validateCursorCoverage draft.scopes cursorsByScope
  let ids ← draft.scopeIds
  return {
    eventId := eventId
    scopes := draft.scopes
    cursorsByScope := cursorsByScope
    eventKind := draft.eventKind
    payload := draft.payload
    threadId := ids.threadId
    runId := ids.runId
    causationId := draft.causationId
    correlationId := draft.correlationId
    origin := draft.origin
    visibility := draft.visibility
    schemaVersion := draft.schemaVersion
    createdAt := createdAt }

def CanonicalEvent.draft (self : CanonicalEvent J) : CanonicalEventDraft J :=
  ⟨self.scopes, self.eventKind, self.payload, self.causationId, self.correlationId, self.origin,
    self.visibility, self.schemaVersion⟩

lemma CanonicalEvent.fromAppend_eq {draft : CanonicalEventDraft J}
    (hdraft : draft.validate = .ok ()) (eventId : CanonicalEventId)
    {cursors : Table EventScope EventCursor} (createdAt : Nat)
    (hcursors : ∀ scope, (cursors.get scope).isSome ↔ scope ∈ draft.scopes) :
    ∃ event, CanonicalEvent.fromAppend eventId cursors createdAt draft = .ok event ∧
      event.eventId = eventId ∧ event.cursorsByScope = cursors ∧ event.draft = draft := by
  obtain ⟨ids, hids⟩ := (CanonicalEventDraft.validate_ok hdraft).2
  have hkeys : ∀ scope, scope ∈ cursors.keys ↔ scope ∈ draft.scopes := by
    intro scope
    rw [← hcursors scope, ← not_iff_not, ← Table.get_eq_none, Option.not_isSome_iff_eq_none]
  have hcoverage : validateCursorCoverage draft.scopes cursors = .ok () := by
    simp [validateCursorCoverage, hkeys]
  rw [CanonicalEvent.fromAppend, hdraft, hcoverage, hids]
  exact ⟨_, rfl, rfl, rfl, rfl⟩

structure EventPage (J : Type) where
  events : List (CanonicalEvent J)
  nextCursor : Option EventCursor
  hasMore : Bool

inductive SubscribeStart where
  | fromStart
  | fromCursor (cursor : EventCursor)
  | fromNow
deriving DecidableEq

end Awaken.Contract.EventStore
