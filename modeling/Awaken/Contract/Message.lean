import Awaken.Agent.LoopState

/-! Messages of a conversation. Arguments of tool calls are JSON values `J`, the content of a
message is a list of blocks `C`. -/

namespace Awaken.Contract

open Awaken.Agent.LoopState (Role Visibility)

variable {J C : Type}

structure CompactionMark where
  fromSeq : Nat
  toSeq : Nat
deriving DecidableEq

structure MessageMetadata where
  runId : Option String
  stepIndex : Option Nat
  senderAgentId : Option String
  compaction : Option CompactionMark
deriving DecidableEq

def MessageMetadata.default : MessageMetadata := ⟨none, none, none, none⟩

structure ToolCall (J : Type) where
  id : String
  name : String
  arguments : J
deriving DecidableEq

structure Message (J C : Type) where
  id : Option String
  role : Role
  content : List C
  toolCalls : Option (List (ToolCall J))
  toolCallId : Option String
  visibility : Visibility
  metadata : Option MessageMetadata
deriving DecidableEq

namespace Message

/-- The constructors of the source draw a new id; here it is given. -/
def assistantWithToolCalls (id : String) (text : C) (calls : List (ToolCall J)) : Message J C where
  id := some id
  role := .assistant
  content := [text]
  toolCalls := if calls.isEmpty then none else some calls
  toolCallId := none
  visibility := .all
  metadata := none

def tool (id : String) (callId : String) (text : C) : Message J C where
  id := some id
  role := .tool
  content := [text]
  toolCalls := none
  toolCallId := some callId
  visibility := .all
  metadata := none

def producedByRunId (self : Message J C) : Option String := self.metadata.bind (·.runId)

def markProducedBy (self : Message J C) (runId : String) (stepIndex : Option Nat) : Message J C :=
  let metadata := self.metadata.getD .default
  { self with metadata := some { metadata with
      runId := metadata.runId.or (some runId)
      stepIndex := metadata.stepIndex.or stepIndex } }

end Message

end Awaken.Contract
