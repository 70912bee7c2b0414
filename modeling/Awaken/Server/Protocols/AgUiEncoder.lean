import Awaken.Lib.Text
import Awaken.Server.Protocols.Shared

namespace Awaken.Server.Protocols.AgUi

open Awaken.Lib Awaken.Lib.Text Awaken.Contract Awaken.Contract.Event Awaken.Contract.Lifecycle

variable {I U J : Type}

inductive Role where
  | assistant
  | reasoning
  | tool
deriving DecidableEq

abbrev Interrupt := String × Option String

structure InterruptPayload where
  id : Option String
  reason : Option String
deriving DecidableEq

inductive Event (J : Type) where
  | runStarted (threadId runId : String) (parentRunId : Option String)
  | runFinished (threadId runId : String) (result : Option J) (outcome : Option String)
      (interrupt : Option InterruptPayload)
  | runError (message : String) (code : Option String)
  | stepStarted (stepName : String)
  | stepFinished (stepName : String)
  | textMessageStart (messageId : String) (role : Role)
  | textMessageContent (messageId delta : String)
  | textMessageEnd (messageId : String)
  | reasoningMessageStart (messageId : String) (role : Role)
  | reasoningMessageContent (messageId delta : String)
  | reasoningMessageEnd (messageId : String)
  | reasoningEncryptedValue (entityId encryptedValue : String)
  | toolCallStart (toolCallId toolCallName : String) (parentMessageId : Option String)
  | toolCallArgs (toolCallId delta : String)
  | toolCallEnd (toolCallId : String)
  | toolCallResult (messageId toolCallId content : String) (role : Option Role)
  | stateSnapshot (snapshot : J)
  | stateDelta (delta : List J)
  | messagesSnapshot (messages : List J)
  | activitySnapshot (messageId activityType : String) (content : List (String × J))
      (replace : Option Bool)
  | activityDelta (messageId activityType : String) (patch : List J)

structure AgUiEncoder where
  messageId : String
  textOpen : Bool
  stepCounter : Nat
  reasoningOpen : Bool
  guard : TerminalGuard
  pendingInterrupts : Table String Interrupt
  lastInterrupt : Option Interrupt

namespace AgUiEncoder

def new : AgUiEncoder := ⟨"", false, 0, false, .new, .empty, none⟩

def closeText (self : AgUiEncoder) : AgUiEncoder × List (Event J) :=
  if self.textOpen then ({ self with textOpen := false }, [.textMessageEnd self.messageId])
  else (self, [])

def closeReasoning (self : AgUiEncoder) : AgUiEncoder × List (Event J) :=
  if self.reasoningOpen then
    ({ self with reasoningOpen := false }, [.reasoningMessageEnd self.messageId])
  else (self, [])

def closeBlocks (self : AgUiEncoder) : AgUiEncoder × List (Event J) :=
  let (self, text) := self.closeText
  let (self, reasoning) := self.closeReasoning
  (self, text ++ reasoning)

def markFinished (self : AgUiEncoder) : AgUiEncoder :=
  { self with guard := self.guard.markFinished }

def resolveInterrupt (self : AgUiEncoder) (id : String) : AgUiEncoder :=
  let pending := self.pendingInterrupts.remove id
  { self with pendingInterrupts := pending, lastInterrupt := pending.values.head? }

variable (json : JsonReader U J)

def onToolCallDone (self : AgUiEncoder) (id messageId : String) (result : ToolResult J) :
    AgUiEncoder × List (Event J) :=
  match result.status with
  | .success =>
    let content := if result.metadata.entries.isEmpty then json.render result.data
      else json.render (json.object
        [("data", result.data), ("metadata", json.object result.metadata.entries)])
    (self.resolveInterrupt id, [.toolCallResult messageId id content (some .tool)])
  | .error =>
    (self.resolveInterrupt id,
      [.toolCallResult messageId id (result.message.getD "tool error") (some .tool)])
  | .pending =>
    match result.suspension with
    | some ticket =>
      let action := ticket.suspension.action
      let interrupt := (ticket.suspension.id, if isBlank action then none else some action)
      ({ self with
        pendingInterrupts := self.pendingInterrupts.insert id interrupt
        lastInterrupt := some interrupt }, [])
    | none => (self, [])

def runEnding (self : AgUiEncoder) (threadId runId : String) (result : Option J) :
    TerminationReason → Event J
  | .error message => .runError message none
  | .suspended =>
    let payload : InterruptPayload := match self.lastInterrupt with
      | some (id, reason) => ⟨some id, reason⟩
      | none => ⟨none, some "tool_approval"⟩
    .runFinished threadId runId none (some "interrupt") (some payload)
  | _ => .runFinished threadId runId result none none

def encode (self : AgUiEncoder) (event : AgentEvent I U J) : AgUiEncoder × List (Event J) :=
  match event with
  | .runStart threadId runId parentRunId _ =>
    ({ self with messageId := runId }, [.runStarted threadId runId parentRunId])
  | .textDelta delta =>
    let start := if self.textOpen then [] else [.textMessageStart self.messageId .assistant]
    ({ self with textOpen := true }, start ++ [.textMessageContent self.messageId delta])
  | .reasoningDelta delta =>
    let start := if self.reasoningOpen then []
      else [.reasoningMessageStart self.messageId .reasoning]
    ({ self with reasoningOpen := true }, start ++ [.reasoningMessageContent self.messageId delta])
  | .reasoningEncryptedValue encryptedValue =>
    (self, [.reasoningEncryptedValue self.messageId encryptedValue])
  | .toolCallStart id name =>
    let (self, events) := self.closeBlocks
    (self, events ++ [.toolCallStart id name (some self.messageId)])
  | .toolCallDelta id argsDelta => (self, [.toolCallArgs id argsDelta])
  | .toolCallReady id _ _ => (self, [.toolCallEnd id])
  | .toolCallDone id messageId result _ => self.onToolCallDone json id messageId result
  | .stepStart messageId =>
    let stepCounter := self.stepCounter + 1
    let messageId := if messageId ≠ "" then messageId else self.messageId
    ({ self with stepCounter := stepCounter, messageId := messageId },
      [.stepStarted s!"step_{stepCounter}"])
  | .stepEnd =>
    let (self, events) := self.closeBlocks
    (self, events ++ [.stepFinished s!"step_{self.stepCounter}"])
  | .runFinish threadId runId _ result termination =>
    let (self, events) := self.markFinished.closeBlocks
    (self, events ++ [self.runEnding threadId runId result termination])
  | .error message code => (self.markFinished, [.runError message code])
  | .stateSnapshot snapshot => (self, [.stateSnapshot snapshot])
  | .stateDelta delta => (self, [.stateDelta delta])
  | .messagesSnapshot messages => (self, [.messagesSnapshot messages])
  | .activitySnapshot messageId activityType content replace =>
    let fields := (json.asObject content).getD [("value", content)]
    (self, [.activitySnapshot messageId activityType fields replace])
  | .activityDelta messageId activityType patch =>
    (self, [.activityDelta messageId activityType patch])
  | .toolCallResumed targetId result =>
    (self.resolveInterrupt targetId,
      [.toolCallResult self.messageId targetId (json.render result) (some .tool)])
  | .toolCallStreamDelta id _ delta =>
    let patch := json.object
      [("op", json.string "add"), ("path", json.string "/delta"), ("value", json.string delta)]
    (self, [.activityDelta id "tool-stream-output" [patch]])
  | .inferenceComplete .. | .toolCallCancel .. | .streamReset .. => (self, [])

def onAgentEvent (self : AgUiEncoder) (event : AgentEvent I U J) : AgUiEncoder × List (Event J) :=
  if self.guard.finished then
    match event with
    | .runStart .. => { self with guard := .new }.encode json event
    | _ => (self, [])
  else self.encode json event

end AgUiEncoder

end Awaken.Server.Protocols.AgUi
