import Awaken.LoopRunner.StreamingAccumulator

namespace Awaken.LoopRunner

open Awaken.Lib Awaken.Contract Awaken.Contract.Executor Awaken.Contract.Event

variable {I U N E : Type}

inductive Ending (E : Type) where
  | drained
  | cancelled
  | interrupted (cause : InterruptCause)
  | failed (error : E)

/-- What the executor does with one request: it does not open a stream, or the stream yields events
and ends. While the loop waits before the next attempt, it may be cancelled. -/
inductive Attempt (U E : Type) where
  | refused (error : E)
  | stream (events : List (LlmStreamEvent U)) (ending : Ending E) (cancelledInBackoff : Bool)

inductive DriveOutcome (U N E : Type) where
  | completed (result : StreamResult U N)
  | cancelled (result : StreamResult U N)
  | interrupted (cause : InterruptCause) (snapshot : InterruptSnapshot N)
  | error (error : E)

inductive Continuation where
  | assistant (text : String)
  | user (text : String)
deriving DecidableEq

inductive RecoveryOutcome (U N : Type) where
  | synthesizedToolUse (result : StreamResult U N) (hint : Option InFlightTool)
  | retryAfterPlan

inductive Returned (U N E : Type) where
  | done (result : StreamResult U N) (hint : Option InFlightTool)
  | error (error : E)
  | streamInterrupted (cause : InterruptCause) (snapshot : InterruptSnapshot N)
  | cancelled

def continuationPrompt : String :=
  "Your previous response was interrupted mid-stream. Continue from where you left off."

def checkpointFlushDeltas : Nat := 4

def LlmStreamEvent.isDelta : LlmStreamEvent U → Bool
  | .textDelta _ | .toolCallStart _ _ | .toolCallDelta _ _ => true
  | .reasoningDelta _ | .contentBlockStop | .usage _ | .stop _ => false

/-- The state of the event loop of `drive_one_stream`, with the checkpoint in the store. -/
structure Driving (U N : Type) where
  acc : StreamingAccumulator U
  deltasSinceLastFlush : Nat
  saved : Option (StreamCheckpoint N)

/-- Where a checkpoint goes, with the clock and the model of the request. -/
structure Flushing where
  handle : Option CheckpointHandle
  upstreamModel : String
  now : Nat

def flushCheckpoint (json : JsonText N) (flushing : Flushing) (acc : StreamingAccumulator U)
    (saved : Option (StreamCheckpoint N)) : Option (StreamCheckpoint N) :=
  match flushing.handle with
  | some handle => some (acc.checkpoint json flushing.upstreamModel flushing.now handle)
  | none => saved

def Driving.receive (json : JsonText N) (flushing : Flushing) (self : Driving U N)
    (event : LlmStreamEvent U) : Driving U N :=
  let acc := self.acc.receive event
  if event.isDelta then
    if self.deltasSinceLastFlush + 1 ≥ checkpointFlushDeltas then
      ⟨acc, 0, flushCheckpoint json flushing acc self.saved⟩
    else ⟨acc, self.deltasSinceLastFlush + 1, self.saved⟩
  else { self with acc := acc }

def Driving.start (saved : Option (StreamCheckpoint N)) : Driving U N := ⟨.default, 0, saved⟩

structure Driven (I U N E : Type) where
  outcome : DriveOutcome U N E
  sent : List (AgentEvent I U (Value N))
  saved : Option (StreamCheckpoint N)

def driveOneStream (json : JsonText N) (flushing : Flushing) (saved : Option (StreamCheckpoint N)) :
    Attempt U E → Driven I U N E
  | .refused error => ⟨.error error, [], saved⟩
  | .stream events ending _ =>
    let driving := events.foldl (Driving.receive json flushing) (.start saved)
    let sent := events.flatMap LlmStreamEvent.forwarded
    match ending with
    | .drained =>
      let finalized := driving.acc.finalize json
      ⟨.completed finalized.1, sent ++ finalized.2, driving.saved⟩
    | .cancelled =>
      let finalized := { driving.acc with cancelled := true }.finalize json
      ⟨.cancelled finalized.1, sent ++ finalized.2, driving.saved⟩
    | .interrupted cause =>
      ⟨.interrupted cause (driving.acc.interruptSnapshot json), sent,
        flushCheckpoint json flushing driving.acc driving.saved⟩
    | .failed error => ⟨.error error, sent, flushCheckpoint json flushing driving.acc driving.saved⟩

def pushContinuation (messages : List Continuation) (assistantPart : String) :
    List Continuation :=
  (if assistantPart = "" then messages else messages ++ [.assistant assistantPart]) ++
    [.user continuationPrompt]

/-- The messages of the request, what the sink is sent and how the loop goes on. -/
def applyRecoveryPlan (messages : List Continuation) (cause : InterruptCause)
    (snapshot : InterruptSnapshot N) :
    List Continuation × List (AgentEvent I U (Value N)) × RecoveryOutcome U N :=
  match snapshot.plan with
  | .continueText assistantPart => (pushContinuation messages assistantPart, [], .retryAfterPlan)
  | .synthesizeToolUse completed cancelledToolHint =>
    let cancels : List (AgentEvent I U (Value N)) := cancelledToolHint.toList.map
      (fun hint => .toolCallCancel hint.id hint.name cause.display)
    let readies : List (AgentEvent I U (Value N)) := completed.map
      (fun call => .toolCallReady call.id call.name call.arguments)
    (messages, cancels ++ readies, .synthesizedToolUse {
      content := (snapshot.text.filter (· ≠ "")).toList
      toolCalls := completed
      usage := none
      stopReason := some .toolUse
      hasIncompleteToolCalls := false } cancelledToolHint)
  | .truncateBeforeTool assistantPart cancelledToolId cancelledToolName =>
    (pushContinuation messages assistantPart,
      [.toolCallCancel cancelledToolId cancelledToolName cause.display], .retryAfterPlan)
  | .wholeRestart => (messages, [.streamReset cause.display], .retryAfterPlan)

/-- One pass of the loop: the events received, what the sink is sent by the stream and then by the
recovery, and whether the stream was interrupted and recovered. -/
structure Round (I U N : Type) where
  events : List (LlmStreamEvent U)
  sent : List (AgentEvent I U (Value N))
  recovery : List (AgentEvent I U (Value N))
  recovered : Bool

/-- The state of the loop of `execute_streaming` between two passes. -/
structure Streaming (N : Type) where
  messages : List Continuation
  attempt : Nat
  saved : Option (StreamCheckpoint N)

def Attempt.events : Attempt U E → List (LlmStreamEvent U)
  | .refused _ => []
  | .stream events _ _ => events

def Attempt.cancelledInBackoff : Attempt U E → Bool
  | .refused _ => false
  | .stream _ _ cancelledInBackoff => cancelledInBackoff

/-- What the loop returns and the checkpoint that is left in the store. -/
structure Finished (U N E : Type) where
  returned : Returned U N E
  saved : Option (StreamCheckpoint N)

def deleteCheckpoint (flushing : Flushing) (saved : Option (StreamCheckpoint N)) :
    Option (StreamCheckpoint N) :=
  if flushing.handle.isSome then none else saved

/-- What the loop does with the outcome of a stream: it returns or goes on. -/
def dispatch (flushing : Flushing) (maxRetries : Nat) (self : Streaming N)
    (attempt : Attempt U E) (driven : Driven I U N E) :
    Round I U N × (Finished U N E ⊕ Streaming N) :=
  let round (recovery : List (AgentEvent I U (Value N))) (recovered : Bool) : Round I U N :=
    ⟨attempt.events, driven.sent, recovery, recovered⟩
  match driven.outcome with
  | .completed result | .cancelled result =>
    (round [] false, .inl ⟨.done result none, deleteCheckpoint flushing driven.saved⟩)
  | .error error => (round [] false, .inl ⟨.error error, driven.saved⟩)
  | .interrupted cause snapshot =>
    let counts := decide (cause ≠ .resumedFromCheckpoint)
    if counts && decide (maxRetries ≤ self.attempt) then
      (round [] false, .inl ⟨.streamInterrupted cause snapshot, driven.saved⟩)
    else
      let (messages, recovery, outcome) := applyRecoveryPlan self.messages cause snapshot
      match outcome with
      | .synthesizedToolUse result hint =>
        (round recovery true, .inl ⟨.done result hint, deleteCheckpoint flushing driven.saved⟩)
      | .retryAfterPlan =>
        if counts && attempt.cancelledInBackoff then
          (round recovery true, .inl ⟨.cancelled, driven.saved⟩)
        else (round recovery true,
          .inr ⟨messages, if counts then self.attempt + 1 else self.attempt, driven.saved⟩)

def streamLoop (json : JsonText N) (flushing : Flushing) (maxRetries : Nat) (self : Streaming N) :
    List (Attempt U E) → List (Round I U N) × Option (Finished U N E)
  | [] => ([], none)
  | attempt :: attempts =>
    match dispatch flushing maxRetries self attempt
      (driveOneStream json flushing self.saved attempt) with
    | (round, .inl finished) => ([round], some finished)
    | (round, .inr next) =>
      let (rounds, finished) := streamLoop json flushing maxRetries next attempts
      (round :: rounds, finished)

def executeStreaming (json : JsonText N) (flushing : Flushing) (maxRetries : Nat)
    (saved : Option (StreamCheckpoint N)) (attempts : List (Attempt U E)) :
    List (Round I U N) × Option (Finished U N E) :=
  match flushing.handle.bind (fun _ => saved) with
  | none => streamLoop json flushing maxRetries ⟨[], 0, saved⟩ attempts
  | some checkpoint =>
    match dispatch flushing maxRetries ⟨[], 0, saved⟩ (.stream [] .drained false)
      ⟨.interrupted .resumedFromCheckpoint (checkpoint.restore json), [], saved⟩ with
    | (round, .inl finished) => ([round], some finished)
    | (round, .inr next) =>
      let (rounds, finished) := streamLoop json flushing maxRetries next attempts
      (round :: rounds, finished)

end Awaken.LoopRunner
