import Awaken.Contract.EventStore
import Awaken.Contract.Lifecycle

namespace Awaken.Contract.EventSink

open Awaken.Lib Awaken.Lib.Text Awaken.Contract.EventStore Awaken.Contract.Lifecycle

variable {I J : Type}

inductive RuntimeEventDurability where
  | disabled
  | compacted
  | fullFidelity
deriving DecidableEq

def RuntimeEventDurability.shouldPersist (self : RuntimeEventDurability)
    (fidelity : FidelityClass) : Bool :=
  match self with
  | .disabled => false
  | .compacted => fidelity ≠ .observedRuntimeEvent
  | .fullFidelity => true

inductive AgentEvent (I J : Type) where
  | runStart (threadId runId : String) (parentRunId : Option String) (identity : Option I)
  | runFinish (threadId runId : String) (identity : Option I) (result : Option J)
      (termination : TerminationReason)
deriving DecidableEq

structure NormalizedCanonicalEvent (J : Type) where
  fidelity : FidelityClass
  draft : CanonicalEventDraft J

def NormalizedCanonicalEvent.new (fidelity : FidelityClass) (draft : CanonicalEventDraft J) :
    Except EventStoreError (NormalizedCanonicalEvent J) := do
  draft.validate
  return ⟨fidelity, draft⟩

structure AgentEventNormalizationContext where
  threadId : String
  runId : String
  origin : String
  correlationId : Option String
  threadId_named : isBlank threadId = false
  runId_named : isBlank runId = false
  origin_named : isBlank origin = false

structure ScopedAgentEventNormalizer where
  context : AgentEventNormalizationContext
  startedRuns : List String
  terminalRuns : List String

def runFinishKind : TerminationReason → String
  | .naturalEnd | .behaviorRequested => "RunFinished"
  | .suspended => "RunSuspended"
  | .cancelled => "RunCancelled"
  | .error _ => "RunErrored"
  | .stopped _ | .blocked _ => "RunTerminated"

namespace ScopedAgentEventNormalizer

def new (context : AgentEventNormalizationContext) : ScopedAgentEventNormalizer :=
  ⟨context, [], []⟩

def newResumed (context : AgentEventNormalizationContext) : ScopedAgentEventNormalizer :=
  ⟨context, [context.runId], []⟩

def scopesFor (threadId runId : String) : List EventScope := [.thread threadId, .run runId]

def build (self : ScopedAgentEventNormalizer) (fidelity : FidelityClass) (eventKind : String)
    (scopes : List EventScope) (payload : J) :
    Except EventStoreError (NormalizedCanonicalEvent J) := do
  let kind ← CanonicalEventKind.new eventKind
  let draft ← CanonicalEventDraft.new scopes kind payload self.context.origin
  NormalizedCanonicalEvent.new fidelity
    { draft with visibility := .public, correlationId := self.context.correlationId }

def normalize (toValue : AgentEvent I J → J) (self : ScopedAgentEventNormalizer)
    (event : AgentEvent I J) :
    ScopedAgentEventNormalizer × Except EventStoreError (Option (NormalizedCanonicalEvent J)) :=
  match event with
  | .runStart threadId runId _ _ =>
    let kind := if runId ∈ self.startedRuns then "RunResumed" else "RunStarted"
    ({ self with startedRuns := self.startedRuns.insert runId },
      (self.build .domainEvent kind (scopesFor threadId runId) (toValue event)).map some)
  | .runFinish threadId runId _ _ termination =>
    if runId ∈ self.terminalRuns then (self, .ok none)
    else
      ({ self with terminalRuns := self.terminalRuns.insert runId },
        (self.build .domainEvent (runFinishKind termination) (scopesFor threadId runId)
          (toValue event)).map some)

def normalizeMany (toValue : AgentEvent I J → J) (self : ScopedAgentEventNormalizer)
    (event : AgentEvent I J) :
    ScopedAgentEventNormalizer × Except EventStoreError (List (NormalizedCanonicalEvent J)) :=
  let (normalizer, normalized) := self.normalize toValue event
  (normalizer, normalized.map Option.toList)

end ScopedAgentEventNormalizer

structure StagedCanonicalEvent (J : Type) where
  draft : CanonicalEventDraft J
  appendOptions : AppendOptions

def StagedCanonicalEvent.new (draft : CanonicalEventDraft J) : StagedCanonicalEvent J :=
  ⟨draft, ⟨none, none, .empty⟩⟩

structure DurableEventSink (I J : Type) where
  inner : List (AgentEvent I J)
  stager : List (StagedCanonicalEvent J)
  normalizer : ScopedAgentEventNormalizer
  mode : RuntimeEventDurability

namespace DurableEventSink

def new (normalizer : ScopedAgentEventNormalizer) (mode : RuntimeEventDurability) :
    DurableEventSink I J :=
  ⟨[], [], normalizer, mode⟩

def staged (mode : RuntimeEventDurability) :
    Except EventStoreError (List (NormalizedCanonicalEvent J)) → List (StagedCanonicalEvent J)
  | .ok normalized =>
    (normalized.filter (fun event => mode.shouldPersist event.fidelity)).map
      (fun event => .new event.draft)
  | .error _ => []

def emit (toValue : AgentEvent I J → J) (self : DurableEventSink I J) (event : AgentEvent I J) :
    DurableEventSink I J :=
  let (normalizer, normalized) := self.normalizer.normalizeMany toValue event
  { inner := self.inner ++ [event]
    stager := self.stager ++ staged self.mode normalized
    normalizer := normalizer
    mode := self.mode }

end DurableEventSink

def wrapRuntimeEventSink (context : AgentEventNormalizationContext) (resumed : Bool)
    (mode : RuntimeEventDurability) : DurableEventSink I J :=
  .new (if resumed then .newResumed context else .new context) mode

end Awaken.Contract.EventSink
