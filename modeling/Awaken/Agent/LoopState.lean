import Awaken.Lib.Text
import Awaken.State.Slot

/-! The state keys of the agent loop that are declared Commutative. A hash map is the function that
looks a key up; `F` stands for floating-point numbers and `C` for content blocks, which are only
passed on. -/

namespace Awaken.Agent.LoopState

open Awaken.Lib.Text Awaken.State

section ToolCalls

inductive ToolCallStatus where
  | new
  | running
  | suspended
  | resuming
  | succeeded
  | failed
  | cancelled
deriving DecidableEq

def ToolCallStatus.canTransitionTo (self next : ToolCallStatus) : Bool :=
  if self = next then true
  else
    match self with
    | .new => true
    | .running => next ∈ [.suspended, .succeeded, .failed, .cancelled]
    | .suspended => next ∈ [.resuming, .cancelled]
    | .resuming => next ∈ [.running, .suspended, .succeeded, .failed, .cancelled]
    | .succeeded | .failed | .cancelled => false

inductive ToolCallResumeMode where
  | replayToolCall
  | useDecisionAsToolResult
  | passDecisionToTool
deriving DecidableEq

inductive ResumeDecisionAction where
  | resume
  | cancel
deriving DecidableEq

structure ToolCallResume (J : Type) where
  decisionId : String
  action : ResumeDecisionAction
  result : J
  reason : Option String
  updatedAt : Nat
deriving DecidableEq

structure ToolCallState (J : Type) where
  callId : String
  toolName : String
  arguments : J
  status : ToolCallStatus
  updatedAt : Nat
  resumeMode : ToolCallResumeMode
  suspensionId : Option String
  suspensionReason : Option String
  resumeInput : Option (ToolCallResume J)
deriving DecidableEq

def normalizeOptionalString (value : Option String) : Option String :=
  value.bind (fun value => if (trim value).isEmpty then none else some (trim value))

def ToolCallState.normalized {J : Type} (self : ToolCallState J) : ToolCallState J :=
  { self with
    suspensionId := normalizeOptionalString self.suspensionId
    suspensionReason := normalizeOptionalString self.suspensionReason }

abbrev ToolCallStateMap (J : Type) := String → Option (ToolCallState J)

inductive ToolCallStatesUpdate (J : Type) where
  | put (state : ToolCallState J)
  | clear

def currentStatus {J : Type} (calls : ToolCallStateMap J) (callId : String) : ToolCallStatus :=
  ((calls callId).map (·.status)).getD .new

def applyToolCalls {J : Type} (calls : ToolCallStateMap J) :
    ToolCallStatesUpdate J → ToolCallStateMap J
  | .put state =>
    if (currentStatus calls state.callId).canTransitionTo state.status then
      Function.update calls state.callId (some state.normalized)
    else calls
  | .clear => fun _ => none

def toolCallStates {J : Type} (codec : Codec J (ToolCallStateMap J)) : StateKey J where
  key := "__runtime.tool_call_states"
  merge := .commutative
  Value := ToolCallStateMap J
  Update := ToolCallStatesUpdate J
  default := fun _ => none
  apply := applyToolCalls
  codec := codec

end ToolCalls

section ContextMessages

inductive Role where
  | system
  | user
  | assistant
  | tool
deriving DecidableEq

inductive Visibility where
  | all
  | internal
deriving DecidableEq

inductive ContextMessageTarget where
  | system
  | session
  | conversation
  | suffixSystem
deriving DecidableEq

structure ContextMessage (C : Type) where
  key : String
  role : Role
  content : List C
  visibility : Visibility
  target : ContextMessageTarget
  cooldownTurns : Nat
  persistent : Bool
  consumeAfterEmit : Bool
  priority : Int
deriving DecidableEq

abbrev ContextMessageStoreValue (C : Type) := String → Option (ContextMessage C)

inductive ContextMessageAction (C : Type) where
  | upsert (msg : ContextMessage C)
  | remove (key : String)
  | removeByPrefix (pre : String)
  | removeEphemeral
  | consumeAfterEmit
  | clear

/-- `HashMap::retain`. -/
def retain {α : Type} (messages : String → Option α) (keep : String → α → Bool) :
    String → Option α :=
  fun k => (messages k).filter (keep k)

def startsWith (s pre : String) : Bool := pre.toList.isPrefixOf s.toList

def applyContextMessages {C : Type} (messages : ContextMessageStoreValue C) :
    ContextMessageAction C → ContextMessageStoreValue C
  | .upsert msg => Function.update messages msg.key (some msg)
  | .remove key => Function.update messages key none
  | .removeByPrefix pre => retain messages (fun k _ => !startsWith k pre)
  | .removeEphemeral => retain messages (fun _ m => m.persistent)
  | .consumeAfterEmit => retain messages (fun _ m => !m.consumeAfterEmit)
  | .clear => fun _ => none

def contextMessageStore {J C : Type} (codec : Codec J (ContextMessageStoreValue C)) :
    StateKey J where
  key := "__runtime.context_message_store"
  merge := .commutative
  Value := ContextMessageStoreValue C
  Update := ContextMessageAction C
  default := fun _ => none
  apply := applyContextMessages
  codec := codec

end ContextMessages

section ToolFilter

structure ToolFilterStateValue where
  excluded : List String
  includeOnly : List (List String)
deriving DecidableEq

inductive ToolFilterStateAction where
  | exclude (id : String)
  | includeOnly (ids : List String)
  | clear
deriving DecidableEq

def applyToolFilter (value : ToolFilterStateValue) : ToolFilterStateAction → ToolFilterStateValue
  | .exclude id => { value with excluded := value.excluded ++ [id] }
  | .includeOnly ids => { value with includeOnly := value.includeOnly ++ [ids] }
  | .clear => ⟨[], []⟩

def toolFilterState {J : Type} (codec : Codec J ToolFilterStateValue) : StateKey J where
  key := "__runtime.tool_filter_state"
  merge := .commutative
  Value := ToolFilterStateValue
  Update := ToolFilterStateAction
  default := ⟨[], []⟩
  apply := applyToolFilter
  codec := codec

end ToolFilter

section InferenceOverrides

inductive ReasoningEffort where
  | none
  | low
  | medium
  | high
  | max
  | budget (tokens : Nat)
deriving DecidableEq

structure InferenceOverride (F : Type) where
  upstreamModel : Option String
  temperature : Option F
  maxTokens : Option Nat
  topP : Option F
  reasoningEffort : Option ReasoningEffort
deriving DecidableEq

def InferenceOverride.merge {F : Type} (self other : InferenceOverride F) :
    InferenceOverride F where
  upstreamModel := other.upstreamModel.or self.upstreamModel
  temperature := other.temperature.or self.temperature
  maxTokens := other.maxTokens.or self.maxTokens
  topP := other.topP.or self.topP
  reasoningEffort := other.reasoningEffort.or self.reasoningEffort

structure InferenceOverrideStateValue (F : Type) where
  overrides : Option (InferenceOverride F)
deriving DecidableEq

inductive InferenceOverrideStateAction (F : Type) where
  | merge (override : InferenceOverride F)
  | clear
deriving DecidableEq

def applyInferenceOverride {F : Type} (value : InferenceOverrideStateValue F) :
    InferenceOverrideStateAction F → InferenceOverrideStateValue F
  | .merge override =>
    match value.overrides with
    | some existing => ⟨some (existing.merge override)⟩
    | none => ⟨some override⟩
  | .clear => ⟨none⟩

def inferenceOverrideState {J F : Type} (codec : Codec J (InferenceOverrideStateValue F)) :
    StateKey J where
  key := "__runtime.inference_override_state"
  merge := .commutative
  Value := InferenceOverrideStateValue F
  Update := InferenceOverrideStateAction F
  default := ⟨none⟩
  apply := applyInferenceOverride
  codec := codec

end InferenceOverrides

end Awaken.Agent.LoopState
