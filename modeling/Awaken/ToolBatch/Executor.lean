import Awaken.Contract.Tool
import Awaken.Engine.Runtime
import Awaken.Lib.Task

namespace Awaken.ToolBatch

open Awaken.Lib Awaken.State Awaken.Engine Awaken.Contract
open Awaken.Agent.LoopState (ToolCallStateMap ToolCallResume toolCallStates)

/-- The state keys of the agent loop, of which the batch reads and writes the tool call states. -/
structure LoopKeys (J κ : Type) where
  pendingCodec : Codec J (List (ScheduledActionEnvelope J))
  failedCodec : Codec J (List (FailedScheduledAction J))
  toolCallsCodec : Codec J (ToolCallStateMap J)
  other : κ → StateKey J

variable {J κ W : Type}

def LoopKeys.runtime (keys : LoopKeys J κ) : RuntimeKeys J (Option κ) where
  pendingCodec := keys.pendingCodec
  failedCodec := keys.failedCodec
  other
    | none => toolCallStates keys.toolCallsCodec
    | some k => keys.other k

structure Outside (keys : LoopKeys J κ) (W : Type) where
  runtime : PhaseRuntime keys.runtime
  world : W

structure ToolCallContext (keys : LoopKeys J κ) where
  callId : String
  toolName : String
  snapshot : Snapshot keys.runtime.key
  resumeInput : Option (ToolCallResume J)
  suspensionId : Option String
  suspensionReason : Option String

structure ToolOutput (keys : LoopKeys J κ) where
  result : ToolResult J
  command : StateCommand keys.runtime.key

structure Tool (keys : LoopKeys J κ) (W : Type) where
  validateArgs : J → Except ToolError Unit
  execute : J → ToolCallContext keys → Task (Outside keys W) (Except ToolError (ToolOutput keys))

structure ToolExecutionResult (keys : LoopKeys J κ) where
  call : ToolCall J
  result : ToolResult J
  outcome : ToolCallOutcome
  command : StateCommand keys.runtime.key

inductive ToolExecutorError where
  | cancelled
  | failed (text : String)
deriving DecidableEq

def ToolExecutorError.display : ToolExecutorError → String
  | .cancelled => "tool execution cancelled"
  | .failed text => "tool execution failed: " ++ text

inductive ParallelMode where
  | batchApproval
  | streaming
deriving DecidableEq

inductive ToolExecutor where
  | sequential
  | parallel (mode : ParallelMode)
deriving DecidableEq

def ToolExecutor.requiresIncrementalState : ToolExecutor → Bool
  | .sequential => true
  | .parallel _ => false

structure Surroundings (keys : LoopKeys J κ) (W : Type) where
  elapse : Outside keys W → Outside keys W
  schedule : W → List Nat

section Execute

variable {keys : LoopKeys J κ} (json : JsonLib J) (tools : String → Option (Tool keys W))

def ToolOutput.ofResult (result : ToolResult J) : ToolOutput keys := ⟨result, .new⟩

def toolOutput (call : ToolCall J) : Except ToolError (ToolOutput keys) → ToolOutput keys
  | .ok output => output
  | .error e => .ofResult (toolErrorResult json call.name e)

def executeSingleTool (call : ToolCall J) (ctx : ToolCallContext keys) :
    Task (Outside keys W) (ToolOutput keys) :=
  match tools call.name with
  | none => .done (.ofResult (.error json call.name s!"tool '{call.name}' not found"))
  | some tool =>
    match tool.validateArgs call.arguments with
    | .error e => .done (.ofResult (.error json call.name e.display))
    | .ok () => (tool.execute call.arguments ctx).map (toolOutput json call)

def executeCall (baseCtx : ToolCallContext keys) (call : ToolCall J) :
    Task (Outside keys W) (ToolExecutionResult keys) :=
  (executeSingleTool json tools call { baseCtx with callId := call.id, toolName := call.name }).map
    (fun output => ⟨call, output.result, .fromToolResult output.result, output.command⟩)

def executeSequential (around : Surroundings keys W) (baseCtx : ToolCallContext keys) :
    List (ToolCall J) → Outside keys W → List (ToolExecutionResult keys) × Outside keys W
  | [], s => ([], s)
  | call :: calls, s =>
    let (result, s) := (executeCall json tools baseCtx call).finish around.elapse s
    if result.outcome = .suspended then ([result], s)
    else
      let (results, s) := executeSequential around baseCtx calls s
      (result :: results, s)

def ToolExecutor.execute (self : ToolExecutor) (around : Surroundings keys W)
    (calls : List (ToolCall J)) (baseCtx : ToolCallContext keys) (s : Outside keys W) :
    Except ToolExecutorError (List (ToolExecutionResult keys)) × Outside keys W :=
  match self with
  | .sequential =>
    let (results, s) := executeSequential json tools around baseCtx calls s
    (.ok results, s)
  | .parallel _ =>
    let (results, s) := Task.joinAll around.elapse (around.schedule s.world)
      (calls.map (executeCall json tools baseCtx)) s
    (.ok results, s)

end Execute

section Results

variable {keys : LoopKeys J κ} {json : JsonLib J} {tools : String → Option (Tool keys W)}
  {around : Surroundings keys W} {baseCtx : ToolCallContext keys} {calls : List (ToolCall J)}

lemma call_of_executeCall {call : ToolCall J} {result : ToolExecutionResult keys}
    (h : (executeCall json tools baseCtx call).Yields result) : result.call = call := by
  obtain ⟨output, -, rfl⟩ := Task.yields_map h
  rfl

lemma calls_of_yields {results : List (ToolExecutionResult keys)}
    (h : List.Forall₂ Task.Yields (calls.map (executeCall json tools baseCtx)) results) :
    results.map (·.call) = calls := by
  induction calls generalizing results with
  | nil =>
    cases h
    rfl
  | cons call calls ih =>
    cases h with
    | cons hfirst hrest => rw [List.map_cons, call_of_executeCall hfirst, ih hrest]

variable (json tools around baseCtx)

lemma execute_parallel {executor : ToolExecutor} (he : executor.requiresIncrementalState = false)
    (calls : List (ToolCall J)) (s : Outside keys W) :
    ∃ results t, executor.execute json tools around calls baseCtx s = (.ok results, t) ∧
      results.map (·.call) = calls := by
  cases executor with
  | sequential => cases he
  | parallel mode => exact ⟨_, _, rfl, calls_of_yields (Task.yields_joinAll _ _ s)⟩

lemma executeSequential_single (call : ToolCall J) (s : Outside keys W) :
    ∃ result t, executeSequential json tools around baseCtx [call] s = ([result], t) ∧
      result.call = call := by
  generalize hrun : (executeCall json tools baseCtx call).finish around.elapse s = run
  obtain ⟨result, t⟩ := run
  have hyields : (executeCall json tools baseCtx call).Yields
      ((executeCall json tools baseCtx call).finish around.elapse s).1 := Task.yields_finish _ s
  rw [hrun] at hyields
  refine ⟨result, t, ?_, call_of_executeCall hyields⟩
  rw [executeSequential, hrun]
  dsimp only
  split <;> rfl

lemma execute_single (executor : ToolExecutor) (call : ToolCall J) (s : Outside keys W) :
    ∃ result t, executor.execute json tools around [call] baseCtx s = (.ok [result], t) ∧
      result.call = call := by
  cases executor with
  | sequential =>
    obtain ⟨result, t, heq, hcall⟩ := executeSequential_single json tools around baseCtx call s
    refine ⟨result, t, ?_, hcall⟩
    rw [ToolExecutor.execute, heq]
  | parallel mode =>
    have he : (ToolExecutor.parallel mode).requiresIncrementalState = false := rfl
    obtain ⟨results, t, heq, hcalls⟩ := execute_parallel json tools around baseCtx he [call] s
    cases results with
    | nil => cases hcalls
    | cons result others =>
      obtain ⟨hcall, hothers⟩ := List.cons.inj hcalls
      rw [List.map_eq_nil_iff.mp hothers] at heq
      exact ⟨result, t, heq, hcall⟩

end Results

end Awaken.ToolBatch
