import Awaken.Lib.Text
import Awaken.Server.Protocols.Shared

namespace Awaken.Server.Protocols.AiSdk

open Awaken.Lib Awaken.Lib.Text Awaken.Contract Awaken.Contract.Event Awaken.Contract.Lifecycle

variable {I U J : Type}

inductive UIStreamEvent (J : Type) where
  | messageStart (messageId : String)
  | textStart (id : String)
  | textDelta (id delta : String)
  | textEnd (id : String)
  | reasoningStart (id : String)
  | reasoningDelta (id delta : String)
  | reasoningEnd (id : String)
  | toolInputStart (toolCallId toolName : String)
  | toolInputDelta (toolCallId inputTextDelta : String)
  | toolInputAvailable (toolCallId toolName : String) (input : J)
  | toolOutputAvailable (toolCallId : String) (output : J) (preliminary providerExecuted : Option Bool)
  | toolOutputError (toolCallId errorText : String) (providerExecuted : Option Bool)
  | toolOutputDenied (toolCallId : String)
  | toolApprovalRequest (approvalId toolCallId : String)
  | startStep
  | finishStep
  | finish (finishReason : Option String)
  | error (errorText : String)
  | sourceUrl (sourceId url : String) (title : Option String)
  | sourceDocument (sourceId mediaType : String) (title filename : Option String)
  | file (url mediaType : String)
  | data (dataType : String) (id : Option String) (data : J) (transient : Option Bool)

namespace UIStreamEvent

def dataWithOptions (name : String) (data : J) (id : Option String) (transient : Option Bool) :
    UIStreamEvent J :=
  let dataType := if name.startsWith "data-" then name else s!"data-{name}"
  .data dataType id data transient

def ofData (name : String) (data : J) : UIStreamEvent J := dataWithOptions name data none none

end UIStreamEvent

def reasoningIdFor (messageId : String) : Option String → String
  | some suffix => s!"reasoning_{messageId}_{suffix}"
  | none => s!"reasoning_{messageId}"

structure AiSdkEncoder where
  messageId : String
  textOpen : Bool
  textCounter : Nat
  guard : TerminalGuard
  messageIdSet : Bool
  openReasoningIds : List String
  streamAccumulators : Table String String

namespace AiSdkEncoder

def new : AiSdkEncoder := ⟨"", false, 0, .new, false, [], .empty⟩

def textId (self : AiSdkEncoder) : String := s!"txt_{self.textCounter}"

def openText (self : AiSdkEncoder) : AiSdkEncoder × List (UIStreamEvent J) :=
  if self.textOpen then (self, [])
  else ({ self with textOpen := true }, [.textStart self.textId])

def closeText (self : AiSdkEncoder) : AiSdkEncoder × List (UIStreamEvent J) :=
  if self.textOpen then
    ({ self with textOpen := false, textCounter := self.textCounter + 1 }, [.textEnd self.textId])
  else (self, [])

def closeAllReasoning (self : AiSdkEncoder) : AiSdkEncoder × List (UIStreamEvent J) :=
  ({ self with openReasoningIds := [] },
    (self.openReasoningIds.mergeSort (fun a b => a ≤ b)).map .reasoningEnd)

def startReasoningIfNeeded (self : AiSdkEncoder) (id : String) :
    AiSdkEncoder × List (UIStreamEvent J) :=
  if id ∈ self.openReasoningIds then (self, [])
  else ({ self with openReasoningIds := id :: self.openReasoningIds }, [.reasoningStart id])

def closeBlocks (self : AiSdkEncoder) : AiSdkEncoder × List (UIStreamEvent J) :=
  let (self, text) := self.closeText
  let (self, reasoning) := self.closeAllReasoning
  (self, text ++ reasoning)

def markFinished (self : AiSdkEncoder) : AiSdkEncoder :=
  { self with guard := self.guard.markFinished }

def finishReason : TerminationReason → String
  | .naturalEnd | .behaviorRequested | .stopped _ | .cancelled => "stop"
  | .suspended => "tool-calls"
  | .error _ => "error"
  | .blocked _ => "content-filter"

variable (json : JsonReader U J)

def onToolCallDone (id : String) (result : ToolResult J) : List (UIStreamEvent J) :=
  match result.status with
  | .success =>
    let output := if result.metadata.entries.isEmpty then result.data
      else json.object [("data", result.data), ("metadata", json.object result.metadata.entries)]
    [.toolOutputAvailable id output none (some true)]
  | .pending =>
    match result.suspension with
    | some ticket =>
      if ticket.resumeMode = .replayToolCall && !isBlank ticket.suspension.id then
        [.toolApprovalRequest ticket.suspension.id id]
      else []
    | none => []
  | .error => [.toolOutputError id (result.message.getD "tool execution error") (some true)]

def onToolCallResumed (targetId : String) (result : J) : List (UIStreamEvent J) :=
  match classifyResumedResult json result with
  | .error message => [.toolOutputError targetId message (some true)]
  | .denied => [.toolOutputDenied targetId]
  | .success => [.toolOutputAvailable targetId result none (some true)]

def dedicatedEvents (messageId activityType : String) (content : J) : List (UIStreamEvent J) :=
  if (json.asObject content).isNone then []
  else if activityType = "source-url" then
    [.sourceUrl ((json.getString content "sourceId").getD messageId)
      ((json.getString content "url").getD "") (json.getString content "title")]
  else if activityType = "source-document" then
    [.sourceDocument ((json.getString content "sourceId").getD messageId)
      ((json.getString content "mediaType").getD "application/octet-stream")
      (json.getString content "title") (json.getString content "filename")]
  else if activityType = "file" then
    [.file ((json.getString content "url").getD "")
      ((json.getString content "mediaType").getD "application/octet-stream")]
  else []

def activity (messageId activityType : String) (rest : List (String × J)) : J :=
  json.object ([("messageId", json.string messageId), ("activityType", json.string activityType)] ++
    rest)

def encode (self : AiSdkEncoder) (event : AgentEvent I U J) :
    AiSdkEncoder × List (UIStreamEvent J) :=
  match event with
  | .runStart threadId runId _ _ =>
    let info := json.object [("runId", json.string runId), ("threadId", json.string threadId)]
    ({ self with messageId := runId }, [.messageStart runId, .ofData "run-info" info])
  | .textDelta delta =>
    let (self, events) := self.openText
    (self, events ++ [.textDelta self.textId delta])
  | .reasoningDelta delta =>
    let reasoningId := reasoningIdFor self.messageId none
    let (self, events) := self.startReasoningIfNeeded reasoningId
    (self, events ++ [.reasoningDelta reasoningId delta])
  | .reasoningEncryptedValue encryptedValue =>
    let value := json.object [("encryptedValue", json.string encryptedValue)]
    (self, [.dataWithOptions "reasoning-encrypted" value (some (reasoningIdFor self.messageId none))
      (some true)])
  | .toolCallStart id name =>
    let (self, events) := self.closeText
    (self, events ++ [.toolInputStart id name])
  | .toolCallDelta id argsDelta => (self, [.toolInputDelta id argsDelta])
  | .toolCallReady id name arguments => (self, [.toolInputAvailable id name arguments])
  | .toolCallStreamDelta id _ delta =>
    let acc := (self.streamAccumulators.get id).getD "" ++ delta
    ({ self with streamAccumulators := self.streamAccumulators.insert id acc },
      [.toolOutputAvailable id (json.string acc) (some true) (some true)])
  | .toolCallDone id _ result _ =>
    ({ self with streamAccumulators := self.streamAccumulators.remove id },
      onToolCallDone json id result)
  | .toolCallResumed targetId result => (self, onToolCallResumed json targetId result)
  | .stepStart messageId =>
    let self := if !self.messageIdSet && messageId ≠ "" then
      { self with messageId := messageId, messageIdSet := true } else self
    (self, [.startStep])
  | .stepEnd =>
    let (self, events) := self.closeBlocks
    (self, events ++ [.finishStep])
  | .runFinish _ _ _ _ termination =>
    let (self, events) := self.markFinished.closeBlocks
    if termination = .suspended then
      (self, events ++ [.finishStep, .finish (some "tool-calls")])
    else (self, events ++ [.finish (some (finishReason termination))])
  | .error message _ => (self.markFinished, [.error message])
  | .stateSnapshot snapshot => (self, [.ofData "state-snapshot" snapshot])
  | .stateDelta delta => (self, [.ofData "state-delta" (json.array delta)])
  | .messagesSnapshot messages => (self, [.ofData "messages-snapshot" (json.array messages)])
  | .activitySnapshot messageId activityType content replace =>
    let value := activity json messageId activityType
      [("content", content), ("replace", json.orNull json.bool replace)]
    (self, dedicatedEvents json messageId activityType content ++
      [.ofData "activity-snapshot" value])
  | .activityDelta messageId activityType patch =>
    let value := activity json messageId activityType [("patch", json.array patch)]
    (self, [.ofData "activity-delta" value])
  | .inferenceComplete model usage durationMs =>
    let value := json.object [("model", json.string model), ("usage", json.orNull json.usage usage),
      ("durationMs", json.natural durationMs)]
    (self, [.ofData "inference-complete" value])
  | .toolCallCancel .. | .streamReset .. => (self, [])

def onAgentEvent (self : AiSdkEncoder) (event : AgentEvent I U J) :
    AiSdkEncoder × List (UIStreamEvent J) :=
  if self.guard.finished then
    match event with
    | .runStart .. => { self with guard := .new }.encode json event
    | _ => (self, [])
  else self.encode json event

end AiSdkEncoder

end Awaken.Server.Protocols.AiSdk
