import Awaken.Lib.Program
import Awaken.ToolBatch.Executor

namespace Awaken.ToolBatch

open Awaken.Lib Awaken.State Awaken.Engine Awaken.Contract
open Awaken.Agent.LoopState

variable {J C κ W : Type}

structure ToolBatchTranscript (J C : Type) where
  assistantMessage : Option (Message J C)
  toolMessages : List (Message J C)

namespace ToolBatchTranscript

def forInference (id : String) (text : C) (calls : List (ToolCall J)) : ToolBatchTranscript J C :=
  ⟨some (.assistantWithToolCalls id text calls), []⟩

def forResume : ToolBatchTranscript J C := ⟨none, []⟩

def visibleMessages (self : ToolBatchTranscript J C) (committed : List (Message J C)) :
    List (Message J C) :=
  committed ++ self.assistantMessage.toList ++ self.toolMessages

def pushToolMessage (self : ToolBatchTranscript J C) (message : Message J C) :
    ToolBatchTranscript J C :=
  { self with toolMessages := self.toolMessages ++ [message] }

end ToolBatchTranscript

structure ToolInfo (J C : Type) where
  messages : List (Message J C)
  toolName : Option String
  toolCallId : Option String
  toolArgs : Option J
  toolResult : Option (ToolResult J)
  resumeInput : Option (ToolCallResume J)
  suspensionId : Option String
  suspensionReason : Option String

def ToolInfo.empty : ToolInfo J C := ⟨[], none, none, none, none, none, none, none⟩

def ToolInfo.applyResume (info : ToolInfo J C) : Option (ToolCallState J) → ToolInfo J C
  | none => info
  | some state =>
    { info with
      suspensionId := state.suspensionId
      suspensionReason := state.suspensionReason
      resumeInput := state.resumeInput.or info.resumeInput }

structure AgentEnv (keys : LoopKeys J κ) (W C : Type) where
  phaseHooks : Phase → List (String × (W → ToolInfo J C → PhaseContext keys.runtime.key →
    Except StateError (StateCommand keys.runtime.key)))
  toolGateHooks : List (W → ToolInfo J C → PhaseContext keys.runtime.key →
    Except StateError (Option (ToolInterceptPayload J)))
  scheduledActionHandlers : String →
    Option (W → ToolInfo J C → ScheduledActionHandler keys.runtime.key)
  effectHandlers : String → Option (W → J → Snapshot keys.runtime.key → Except StateError Unit)

def AgentEnv.at {keys : LoopKeys J κ} (self : AgentEnv keys W C) (world : W)
    (info : ToolInfo J C) : ExecutionEnv keys.runtime.key where
  phaseHooks phase := (self.phaseHooks phase).map (fun hook => ⟨hook.1, hook.2 world info⟩)
  scheduledActionHandlers key :=
    (self.scheduledActionHandlers key).map (fun handler => handler world info)
  effectHandlers key := (self.effectHandlers key).map (fun handler => handler world)

inductive AgentEvent (J : Type) where
  | toolCallResumed (targetId : String) (result : J)
  | toolCallDone (id messageId : String) (result : ToolResult J) (outcome : ToolCallOutcome)

inductive AgentLoopError where
  | inferenceFailed (text : String)
  | phaseError (error : StateError)

structure StepContext (keys : LoopKeys J κ) (W C : Type) where
  json : JsonLib J
  text : String → C
  env : AgentEnv keys W C
  tools : String → Option (Tool keys W)
  executor : ToolExecutor
  activeHookFilter : List String
  cancellationToken : Option CancellationToken
  messages : List (Message J C)
  around : Surroundings keys W
  nowMs : W → Nat
  genMessageId : W → String

structure StepState (keys : LoopKeys J κ) (W C : Type) where
  outside : Outside keys W
  transcript : ToolBatchTranscript J C
  events : List (AgentEvent J)

abbrev StepM (keys : LoopKeys J κ) (W C : Type) : Type → Type :=
  Program AgentLoopError (StepState keys W C)

variable {keys : LoopKeys J κ}

def activeResumeState (store : StateStore keys.runtime.key) (callId : String) :
    Option (ToolCallState J) :=
  let states : Option (ToolCallStateMap J) := store.inner.ext (.other none)
  (states.bind (fun calls => calls callId)).filter (fun state => state.status = .resuming)

def StepState.resumeState (s : StepState keys W C) (call : ToolCall J) :
    Option (ToolCallState J) :=
  activeResumeState s.outside.runtime.store call.id

def putToolCall (cmd : StateCommand keys.runtime.key) (state : ToolCallState J) :
    StateCommand keys.runtime.key :=
  let update : ToolCallStatesUpdate J := .put state
  cmd.update (.other none) update

def newToolCallState (call : ToolCall J) (status : ToolCallStatus) (now : Nat) :
    ToolCallState J :=
  ⟨call.id, call.name, call.arguments, status, now, .replayToolCall, none, none, none⟩

def withSuspension (state : ToolCallState J) (suspension : Suspension J) : ToolCallState J :=
  { state with
    suspensionId := normalizeOptionalString (some suspension.id)
    suspensionReason := normalizeOptionalString (some suspension.action) }

def toolCallStateCmd (call : ToolCall J) (status : ToolCallStatus) (now : Nat) :
    StateCommand keys.runtime.key :=
  putToolCall .new (newToolCallState call status now)

namespace StepContext

variable (ctx : StepContext keys W C)

def phaseContext (phase : Phase) (s : StepState keys W C) : PhaseContext keys.runtime.key :=
  ⟨phase, s.outside.runtime.store.snapshot, ctx.activeHookFilter, ctx.cancellationToken⟩

def toolInfo (call : ToolCall J) (s : StepState keys W C) : ToolInfo J C :=
  ⟨s.transcript.visibleMessages ctx.messages, some call.name, some call.id, some call.arguments,
    none, none, none, none⟩

def await : StepM keys W C Unit :=
  Program.change (fun s => { s with outside := ctx.around.elapse s.outside })

def liftState {α : Type} (x : Except StateError α) : StepM keys W C α :=
  Program.lift (x.mapError .phaseError)

def emit (event : AgentEvent J) : StepM keys W C Unit := do
  Program.change (fun s => { s with events := s.events ++ [event] })
  ctx.await

def pushToolMessage (callId : String) (text : String) : StepM keys W C Unit :=
  Program.change (fun s =>
    let message := Message.tool (ctx.genMessageId s.outside.world) callId (ctx.text text)
    { s with transcript := s.transcript.pushToolMessage message })

section Runtime

variable [DecidableEq κ]

def collectCommands (info : ToolInfo J C) (phase : PhaseContext keys.runtime.key) :
    StepM keys W C (StateCommand keys.runtime.key) := do
  let s ← Program.look
  let cmd ← liftState
    (s.outside.runtime.collectCommands (ctx.env.at s.outside.world info) phase)
  ctx.await
  return cmd

def submitCommand (cmd : StateCommand keys.runtime.key) : StepM keys W C Unit := do
  let s ← Program.look
  let result := s.outside.runtime.submitCommand (ctx.env.at s.outside.world .empty) cmd
  Program.change (fun s => { s with outside := { s.outside with runtime := result.2 } })
  let _ ← liftState result.1
  ctx.await

def runExecuteLoop (info : ToolInfo J C) (phase : PhaseContext keys.runtime.key) :
    StepM keys W C Unit := do
  let s ← Program.look
  let result := s.outside.runtime.runExecuteLoop (ctx.env.at s.outside.world info) phase
  Program.change (fun s => { s with outside := { s.outside with runtime := result.2 } })
  let _ ← liftState result.1
  ctx.await

def execute (calls : List (ToolCall J)) (toolCtx : ToolCallContext keys) :
    StepM keys W C (List (ToolExecutionResult keys)) := do
  let s ← Program.look
  let result := ctx.executor.execute ctx.json ctx.tools ctx.around calls toolCtx s.outside
  Program.change (fun s => { s with outside := result.2 })
  Program.lift (result.1.mapError (fun e => .inferenceFailed e.display))

end Runtime

section Gate

def gatePayloads (info : ToolInfo J C) (phase : PhaseContext keys.runtime.key) :
    List (W → ToolInfo J C → PhaseContext keys.runtime.key →
      Except StateError (Option (ToolInterceptPayload J))) →
    StepM keys W C (List (ToolInterceptPayload J))
  | [] => return []
  | hook :: hooks => do
    let s ← Program.look
    let payload ← liftState (hook s.outside.world info phase)
    ctx.await
    let payloads ← gatePayloads info phase hooks
    return payload.toList ++ payloads

def runToolGate (call : ToolCall J) : StepM keys W C (Option (ToolInterceptPayload J)) := do
  let s ← Program.look
  let info := (ctx.toolInfo call s).applyResume (s.resumeState call)
  let payloads ← ctx.gatePayloads info (ctx.phaseContext .toolGate s) ctx.env.toolGateHooks
  return resolveInterceptPayloads payloads

end Gate

section Completion

variable [DecidableEq κ]

def terminalStatus : ToolCallOutcome → ToolCallStatus
  | .suspended => .suspended
  | .succeeded => .succeeded
  | .failed => .failed

def completedState (call : ToolCall J) (result : ToolResult J) (outcome : ToolCallOutcome)
    (resumeState : Option (ToolCallState J)) (now : Nat) : ToolCallState J :=
  let resumeMode := ((result.suspension.map (·.resumeMode)).or
    (resumeState.map (·.resumeMode))).getD .replayToolCall
  let state := { newToolCallState call (terminalStatus outcome) now with resumeMode := resumeMode }
  match result.suspension with
  | some ticket => withSuspension state ticket.suspension
  | none => state

def extendWith (cmd other : StateCommand keys.runtime.key) :
    StepM keys W C (StateCommand keys.runtime.key) :=
  if other.isEmpty then pure cmd else liftState (cmd.extend other)

def buildToolStateCommand (call : ToolCall J) (result : ToolResult J)
    (toolCommand : StateCommand keys.runtime.key) (outcome : ToolCallOutcome) :
    StepM keys W C (StateCommand keys.runtime.key) := do
  let s ← Program.look
  let resumeState := s.resumeState call
  let now := ctx.nowMs s.outside.world
  let cmd := putToolCall (toolCallStateCmd call .running now)
    (completedState call result outcome resumeState now)
  let cmd ← extendWith cmd toolCommand
  let info := { (ctx.toolInfo call s).applyResume resumeState with toolResult := some result }
  let afterCmd ← ctx.collectCommands info (ctx.phaseContext .afterToolExecute s)
  extendWith cmd afterCmd

def emitToolCompletion (call : ToolCall J) (result : ToolResult J) (outcome : ToolCallOutcome) :
    StepM keys W C Unit := do
  let s ← Program.look
  ctx.emit (if (s.resumeState call).isSome ∧ outcome ≠ .suspended then
      .toolCallResumed call.id (result.toResumePayload ctx.json)
    else .toolCallDone call.id "" result outcome)
  ctx.pushToolMessage call.id (result.toContent ctx.json)

def completeToolCall (call : ToolCall J) (result : ToolResult J)
    (toolCommand : StateCommand keys.runtime.key) (outcome : ToolCallOutcome) :
    StepM keys W C Unit := do
  let cmd ← ctx.buildToolStateCommand call result toolCommand outcome
  ctx.emitToolCompletion call result outcome
  ctx.submitCommand cmd

def buildSuspendStateCommand (call : ToolCall J) (ticket : SuspendTicket J) (now : Nat) :
    StateCommand keys.runtime.key :=
  putToolCall .new (withSuspension
    { newToolCallState call .suspended now with resumeMode := ticket.resumeMode } ticket.suspension)

def emitSuspendCompletion (call : ToolCall J) (ticket : SuspendTicket J) :
    StepM keys W C Unit := do
  ctx.emit (.toolCallDone call.id "" (.suspendedWith ctx.json call.name
    s!"Tool '{call.name}' suspended: awaiting approval" ticket) .suspended)
  ctx.pushToolMessage call.id s!"Tool '{call.name}' suspended: awaiting decision"

def interruptedToolMessage : String := "[Tool execution was interrupted]"

def completeInterruptedToolCall (call : ToolCall J) : StepM keys W C Unit := do
  let s ← Program.look
  let cmd := toolCallStateCmd call .failed (ctx.nowMs s.outside.world)
  ctx.emitToolCompletion call (.error ctx.json call.name interruptedToolMessage) .failed
  ctx.submitCommand cmd

def backfillInterruptedToolCalls : List (ToolCall J) → StepM keys W C Unit
  | [] => return ()
  | call :: calls => do
    ctx.completeInterruptedToolCall call
    backfillInterruptedToolCalls calls

structure AppliedIntercept where
  blockedReason : Option String
  suspended : Bool

def applyInterceptPayload (call : ToolCall J) :
    ToolInterceptPayload J → StepM keys W C AppliedIntercept
  | .block reason => do
    let result := (ToolResult.error ctx.json call.name reason).withMetadata "rejected"
      (ctx.json.bool true)
    let cmd ← ctx.buildToolStateCommand call result .new .failed
    ctx.submitCommand cmd
    ctx.emitToolCompletion call result .failed
    return ⟨some reason, false⟩
  | .suspend ticket => do
    let s ← Program.look
    ctx.submitCommand (buildSuspendStateCommand call ticket (ctx.nowMs s.outside.world))
    ctx.emitSuspendCompletion call ticket
    return ⟨none, true⟩
  | .setResult result => do
    let outcome := ToolCallOutcome.fromToolResult result
    ctx.completeToolCall call result .new outcome
    return ⟨none, decide (outcome = .suspended)⟩

end Completion

section Execution

variable [DecidableEq κ]

def runBeforeToolExecute (call : ToolCall J) : StepM keys W C Unit := do
  let s ← Program.look
  let resumeState := s.resumeState call
  let info := (ctx.toolInfo call s).applyResume resumeState
  let cmd ← ctx.collectCommands info (ctx.phaseContext .beforeToolExecute s)
  if cmd.isEmpty then return ()
  else
    ctx.submitCommand cmd
    let s ← Program.look
    ctx.runExecuteLoop ((ctx.toolInfo call s).applyResume resumeState)
      (ctx.phaseContext .beforeToolExecute s)

def runBeforeToolExecuteBatch : List (ToolCall J) → StepM keys W C Unit
  | [] => return ()
  | call :: calls => do
    ctx.runBeforeToolExecute call
    runBeforeToolExecuteBatch calls

structure ReadyExecutionOutcome where
  suspended : Bool
  processedCalls : Nat

def baseToolContext (s : StepState keys W C) : ToolCallContext keys :=
  ⟨"", "", s.outside.runtime.store.snapshot, none, none, none⟩

def singleToolContext (call : ToolCall J) (s : StepState keys W C) : ToolCallContext keys :=
  let snapshot := s.outside.runtime.store.snapshot
  match s.resumeState call with
  | none => ⟨call.id, call.name, snapshot, none, none, none⟩
  | some state =>
    ⟨call.id, call.name, snapshot, state.resumeInput, state.suspensionId, state.suspensionReason⟩

def completeExecuted (result : ToolExecutionResult keys) : StepM keys W C Unit :=
  ctx.completeToolCall result.call result.result result.command result.outcome

def executeIncremental : List (ToolCall J) → Nat → StepM keys W C ReadyExecutionOutcome
  | [], processed => return ⟨false, processed⟩
  | call :: calls, processed => do
    ctx.runBeforeToolExecuteBatch [call]
    let s ← Program.look
    let batch ← ctx.execute [call] (singleToolContext call s)
    match batch.getLast? with
    | none => executeIncremental calls processed
    | some result =>
      ctx.completeExecuted result
      if result.outcome = .suspended then return ⟨true, processed + 1⟩
      else executeIncremental calls (processed + 1)

def completeAll : List (ToolExecutionResult keys) → Bool → Nat →
    StepM keys W C ReadyExecutionOutcome
  | [], suspended, processed => return ⟨suspended, processed⟩
  | result :: results, suspended, processed => do
    ctx.completeExecuted result
    completeAll results (suspended || decide (result.outcome = .suspended)) (processed + 1)

def executeSegments : Nat → List (ToolCall J) → Nat → StepM keys W C ReadyExecutionOutcome
  | 0, _, processed => return ⟨false, processed⟩
  | _ + 1, [], processed => return ⟨false, processed⟩
  | fuel + 1, call :: calls, processed => do
    let s ← Program.look
    if (s.resumeState call).isSome then
      let resumeState := s.resumeState call
      ctx.runBeforeToolExecuteBatch [call]
      let s ← Program.look
      let batch ← ctx.execute [call]
        ⟨call.id, call.name, s.outside.runtime.store.snapshot, resumeState.bind (·.resumeInput),
          resumeState.bind (·.suspensionId), resumeState.bind (·.suspensionReason)⟩
      match batch.getLast? with
      | none => executeSegments fuel calls processed
      | some result =>
        ctx.completeExecuted result
        if result.outcome = .suspended then return ⟨true, processed + 1⟩
        else executeSegments fuel calls (processed + 1)
    else
      let segment := (call :: calls).takeWhile (fun call => (s.resumeState call).isNone)
      ctx.runBeforeToolExecuteBatch segment
      let s ← Program.look
      let results ← ctx.execute segment (baseToolContext s)
      let outcome ← ctx.completeAll results false processed
      if outcome.suspended then return outcome
      else executeSegments fuel ((call :: calls).drop segment.length) outcome.processedCalls

def executeReadyToolCalls (allowedCalls : List (ToolCall J)) :
    StepM keys W C ReadyExecutionOutcome := do
  if allowedCalls.isEmpty then return ⟨false, 0⟩
  else
    let s ← Program.look
    if ctx.executor.requiresIncrementalState then ctx.executeIncremental allowedCalls 0
    else if allowedCalls.any (fun call => (s.resumeState call).isSome) then
      ctx.executeSegments allowedCalls.length allowedCalls 0
    else
      ctx.runBeforeToolExecuteBatch allowedCalls
      let results ← ctx.execute allowedCalls (baseToolContext s)
      ctx.completeAll results false 0

structure AllowedExecutionOutcome where
  blockedReason : Option String
  suspended : Bool
  processedCalls : Nat

def executeAllowedToolCalls (allowedCalls : List (ToolCall J)) :
    StepM keys W C AllowedExecutionOutcome := do
  let batch ← ctx.executeReadyToolCalls allowedCalls
  return ⟨none, batch.suspended, batch.processedCalls⟩

end Execution

section Interception

variable [DecidableEq κ]

def executeRemaining (allowedCalls : List (ToolCall J)) (suspended : Bool) :
    StepM keys W C (Option String × Bool) := do
  if allowedCalls.isEmpty then return (none, suspended)
  else
    let batch ← ctx.executeAllowedToolCalls allowedCalls
    match batch.blockedReason with
    | some reason => return (some reason, suspended)
    | none =>
      if batch.suspended then
        ctx.backfillInterruptedToolCalls (allowedCalls.drop batch.processedCalls)
        return (none, true)
      else return (none, suspended)

inductive GateOutcome (J : Type) where
  | finished (result : Option String × Bool)
  | decided (intercept : Option (ToolInterceptPayload J)) (allowedCalls : List (ToolCall J))

def gateCall (call : ToolCall J) (calls allowedCalls : List (ToolCall J)) (suspended : Bool) :
    StepM keys W C (GateOutcome J) := do
  let intercept ← ctx.runToolGate call
  if intercept.isSome ∧ allowedCalls ≠ [] then
    let batch ← ctx.executeAllowedToolCalls allowedCalls
    match batch.blockedReason with
    | some reason =>
      ctx.backfillInterruptedToolCalls (call :: calls)
      return .finished (some reason, suspended)
    | none =>
      if batch.suspended then
        ctx.backfillInterruptedToolCalls (allowedCalls.drop batch.processedCalls)
        ctx.backfillInterruptedToolCalls (call :: calls)
        return .finished (none, true)
      else
        let intercept ← ctx.runToolGate call
        return .decided intercept []
  else return .decided intercept allowedCalls

/-- The loop over the calls, with the calls that are left, the calls that were allowed and not yet
executed, and whether a call was suspended. -/
def interceptCalls : List (ToolCall J) → List (ToolCall J) → Bool →
    StepM keys W C (Option String × Bool)
  | [], allowedCalls, suspended => ctx.executeRemaining allowedCalls suspended
  | call :: calls, allowedCalls, suspended => do
    match ← ctx.gateCall call calls allowedCalls suspended with
    | .finished result => return result
    | .decided none allowedCalls => interceptCalls calls (allowedCalls ++ [call]) suspended
    | .decided (some payload) allowedCalls =>
      let applied ← ctx.applyInterceptPayload call payload
      match applied.blockedReason with
      | some reason =>
        ctx.backfillInterruptedToolCalls calls
        return (some reason, suspended)
      | none => interceptCalls calls allowedCalls (suspended || applied.suspended)

def executeToolsWithInterception (calls : List (ToolCall J)) :
    StepM keys W C (Option String × Bool) :=
  ctx.interceptCalls calls [] false

end Interception

end StepContext

end Awaken.ToolBatch
