import Awaken.Context.Compaction
import Awaken.LoopRunner.Checkpoint
import Awaken.LoopRunner.RecordedOutput

namespace Awaken.LoopRunner

open Awaken.Contract Awaken.Contract.MessageAppend Awaken.Context
open Awaken.Agent.LoopState (Role)

variable {J B : Type}

section State

def isAssistant (message : ChatMessage J B) : Bool := message.role = .assistant

def latestRunResponse (messages : List (ChatMessage J B)) (inputMessageCount : Nat) : String :=
  (((messages.drop inputMessageCount).reverse.find? isAssistant).map
    (extractText ·.content)).getD ""

structure Entry (J B : Type) where
  message : ChatMessage J B
  produced : Bool

/-- Beside the state of the loop: the history that no summary has touched, of which `taken` messages
are gone from the live one, where those that are left stand `shift` places further to the front. -/
structure RunHistory (J B : Type) where
  live : List (ChatMessage J B)
  inputMessageCount : Nat
  committed : List (ChatMessage J B)
  stored : Option (RunRecord J)
  cached : Option (RunRecord J)
  response : Option String
  history : List (Entry J B)
  taken : Nat
  shift : Nat

def RunHistory.begin (messages committed : List (ChatMessage J B)) (stored : Option (RunRecord J))
    (cached : Bool) : RunHistory J B where
  live := messages
  inputMessageCount := messages.length
  committed := committed
  stored := stored
  cached := if cached then stored else none
  response := none
  history := messages.map (⟨·, false⟩)
  taken := 0
  shift := 0

def RunHistory.previous (s : RunHistory J B) : Option (RunRecord J) := s.cached.or s.stored

end State

section Step

variable (identity : RunIdentity) (isSummaryText : List (ContentBlock B) → Bool)

def RunHistory.usedIds (s : RunHistory J B) : List String :=
  messageIds s.live ++ messageIds (s.history.map (·.message)) ++ messageIds s.committed ++
    outputIds s.stored ++ outputIds s.cached

def RunHistory.producedIds (s : RunHistory J B) : List String :=
  messageIds ((s.history.filter (·.produced)).map (·.message))

def RunHistory.Foreign (s : RunHistory J B) (message : ChatMessage J B) : Prop :=
  (∀ id, message.id = some id → id ∉ s.producedIds) ∧
    message.producedByRunId ≠ some identity.runId

inductive RunEvent (J B : Type) where
  | receive (messages : List (ChatMessage J B))
  | produce (messages : List (ChatMessage J B))
  | summarize (messageId boundaryMessageId summaryText : String)
  | others (delta : List (ChatMessage J B))
  | checkpoint (base : RunRecord J) (stepCount : Nat) (boundaryId : Option String)
  | respond

def RunHistory.append (s : RunHistory J B) (messages : List (ChatMessage J B)) (produced : Bool) :
    RunHistory J B :=
  { s with
    live := s.live ++ messages
    history := s.history ++ messages.map (⟨·, produced⟩) }

def RunHistory.plan (s : RunHistory J B) (base : RunRecord J) (stepCount : Nat)
    (boundaryId : Option String) : ThreadCommit J (ContentBlock B) :=
  buildPlan identity isSummaryText ⟨s.previous, base, stepCount, s.inputMessageCount, boundaryId⟩
    s.live s.committed

/-- The ids of produced messages and of summaries are drawn anew. A commit that is refused ends the
run with an error. -/
inductive RunStep : RunHistory J B → RunEvent J B → RunHistory J B → Prop
  | receive {s : RunHistory J B} {messages : List (ChatMessage J B)} :
      s.response = none → (∀ message ∈ messages, s.Foreign identity message) →
      RunStep s (.receive messages) (s.append messages false)
  | produce {s : RunHistory J B} {messages : List (ChatMessage J B)} :
      s.response = none → (messageIds messages).Nodup →
      (∀ message ∈ messages, message.metadata = none ∧
        ∃ id, message.id = some id ∧ id ∉ s.usedIds) →
      RunStep s (.produce messages) (s.append messages true)
  | summarize {s : RunHistory J B} {messageId boundaryMessageId summaryText : String}
      {applied : AppliedCompaction} {live : List (ChatMessage J B)} :
      s.response = none → messageId ∉ s.usedIds →
      applySummary messageId s.live boundaryMessageId summaryText = some (applied, live) →
      RunStep s (.summarize messageId boundaryMessageId summaryText)
        { s with
          live := live
          taken := s.shift + applied.boundaryIndex + 1
          shift := s.shift + applied.boundaryIndex }
  | others {s : RunHistory J B} {delta : List (ChatMessage J B)} :
      (∀ message ∈ delta, s.Foreign identity message) →
      RunStep s (.others delta) { s with committed := s.committed ++ delta }
  | checkpoint {s : RunHistory J B} {base : RunRecord J} {stepCount : Nat}
      {boundaryId : Option String} :
      validateAppendOnlyDelta s.committed
        (s.plan identity isSummaryText base stepCount boundaryId).messageDelta = .ok () →
      RunStep s (.checkpoint base stepCount boundaryId)
        { s with
          committed := s.committed ++
            (s.plan identity isSummaryText base stepCount boundaryId).messageDelta
          stored := some (s.plan identity isSummaryText base stepCount boundaryId).runProjection }
  | respond {s : RunHistory J B} :
      s.response = none →
      RunStep s .respond { s with response := some (latestRunResponse s.live s.inputMessageCount) }

end Step

section Property

def Entry.isOutput (e : Entry J B) : Bool := e.produced && isRunOutputMessage e.message

def Entry.isAnswer (e : Entry J B) : Bool := e.produced && isAssistant e.message

def Entry.within (log : List (ChatMessage J B)) (e : Entry J B) : Bool := !IsNew log e.message

def entryIds (entries : List (Entry J B)) : List String := messageIds (entries.map (·.message))

def RunHistory.committedOutputs (s : RunHistory J B) : List String :=
  entryIds (s.history.filter (fun e => e.isOutput && e.within s.committed))

def RunHistory.lastAnswer (s : RunHistory J B) : String :=
  ((s.history.filter Entry.isAnswer).getLast?.map (extractText ·.message.content)).getD ""

/-- `earlier` are the outputs that the record of the run listed at its start. -/
structure OutputsKept (earlier : List String) (s : RunHistory J B) : Prop where
  outputs : outputIds s.stored = earlier ++ s.committedOutputs
  response : ∀ response, s.response = some response → response = s.lastAnswer

def RunHistory.standing (s : RunHistory J B) : List (Entry J B) :=
  s.history.drop (max s.taken (s.inputMessageCount + s.shift))

/-- What a checkpoint will commit as output stands behind the number of inputs where the run
produced it, and only there; and with a cached record no output of an earlier checkpoint is gone. -/
structure Separated (s : RunHistory J B) : Prop where
  new : ∀ index e, s.history[index]? = some e → s.taken ≤ index →
    IsNew s.committed e.message = true → isRunOutputMessage e.message = true →
    (s.inputMessageCount + s.shift ≤ index ↔ e.produced = true)
  cached : s.cached.isSome → ∀ e ∈ s.history.take s.taken, e.isOutput = true →
    IsNew s.committed e.message = true

structure Answerable (s : RunHistory J B) : Prop where
  own : ∀ e, (s.standing.filter (fun e => isAssistant e.message)).getLast? = some e →
    e.produced = true
  last : ∀ e, (s.history.filter Entry.isAnswer).getLast? = some e →
    e ∈ s.standing ∨ extractText e.message.content = ""

open Lib in
def SummariesSpare (τ : Transition (RunHistory J B) (RunEvent J B)) : Prop :=
  (∀ base stepCount boundaryId, τ.label = .checkpoint base stepCount boundaryId →
    Separated τ.pre) ∧ (τ.label = .respond → Answerable τ.pre)

/-- A run starts with a record that lists the messages which carry its mark. -/
structure Begins (identity : RunIdentity) (s : RunHistory J B) : Prop where
  start : ∃ cached, s = .begin s.live s.committed s.stored cached
  marked : ∀ message ∈ s.live ++ s.committed, message.producedByRunId = some identity.runId →
    ∀ id, message.id = some id → id ∈ outputIds s.stored

end Property

end Awaken.LoopRunner
