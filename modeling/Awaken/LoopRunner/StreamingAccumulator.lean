import Awaken.Contract.AgentEvent
import Awaken.Contract.InterruptSnapshot
import Awaken.Lib.Table

namespace Awaken.LoopRunner

open Awaken.Lib Awaken.Contract Awaken.Contract.Executor Awaken.Contract.Event

inductive StopReason where
  | endTurn
  | maxTokens
  | toolUse
  | stopSequence
deriving DecidableEq

variable {I U N : Type}

inductive LlmStreamEvent (U : Type) where
  | textDelta (delta : String)
  | reasoningDelta (delta : String)
  | toolCallStart (id name : String)
  | toolCallDelta (id argsDelta : String)
  | contentBlockStop
  | usage (usage : U)
  | stop (reason : StopReason)

def LlmStreamEvent.forwarded : LlmStreamEvent U → List (AgentEvent I U (Value N))
  | .textDelta delta => [.textDelta delta]
  | .reasoningDelta delta => [.reasoningDelta delta]
  | .toolCallStart id name => [.toolCallStart id name]
  | .toolCallDelta id argsDelta => [.toolCallDelta id argsDelta]
  | .contentBlockStop | .usage _ | .stop _ => []

structure StreamResult (U N : Type) where
  content : List String
  toolCalls : List (ToolCall (Value N))
  usage : Option U
  stopReason : Option StopReason
  hasIncompleteToolCalls : Bool

structure StreamingAccumulator (U : Type) where
  contentBlocks : List String
  usage : Option U
  stopReason : Option StopReason
  currentText : String
  currentToolArgs : Table String String
  toolNames : Table String String
  toolOrder : List String
  bytesReceived : Nat
  cancelled : Bool

structure StreamCheckpoint (N : Type) where
  runId : String
  threadId : String
  upstreamModel : String
  partialText : String
  completedToolCalls : List (ToolCall (Value N))
  inFlightTool : Option InFlightTool
  updatedAtMs : Nat

structure CheckpointHandle where
  runId : String
  threadId : String

namespace StreamingAccumulator

def default : StreamingAccumulator U := ⟨[], none, none, "", .empty, .empty, [], 0, false⟩

def receive (self : StreamingAccumulator U) : LlmStreamEvent U → StreamingAccumulator U
  | .textDelta delta => { self with currentText := self.currentText ++ delta }
  | .reasoningDelta _ => self
  | .toolCallStart id name => { self with
      toolNames := self.toolNames.insert id name
      currentToolArgs := self.currentToolArgs.insert id ""
      toolOrder := self.toolOrder ++ [id] }
  | .toolCallDelta id argsDelta => { self with
      currentToolArgs := self.currentToolArgs.modify id (· ++ argsDelta) }
  | .contentBlockStop =>
    if self.currentText = "" then self
    else { self with
      contentBlocks := self.contentBlocks ++ [self.currentText]
      currentText := "" }
  | .usage usage => { self with usage := some usage }
  | .stop reason => { self with stopReason := some reason }

def partials (self : StreamingAccumulator U) : List Partial :=
  self.toolOrder.map (fun id =>
    ⟨id, (self.toolNames.get id).getD "", (self.currentToolArgs.get id).getD ""⟩)

def closedText (contentBlocks : List String) : Option String :=
  match contentBlocks.filter (· ≠ "") with
  | [] => none
  | block :: blocks => some (blocks.foldl (· ++ ·) block)

def interruptSnapshot (json : JsonText N) (self : StreamingAccumulator U) : InterruptSnapshot N :=
  let text := if self.currentText = "" then closedText self.contentBlocks
    else some self.currentText
  .fromPartials json text self.partials self.bytesReceived

def endedCall (json : JsonText N) (part : Partial) : Option (ToolCall (Value N)) :=
  match (json.fromText part.argsJson).getD .null with
  | .null => if part.argsJson = "" then some ⟨part.id, part.name, .null⟩ else none
  | arguments => some ⟨part.id, part.name, arguments⟩

def finalize (json : JsonText N) (self : StreamingAccumulator U) :
    StreamResult U N × List (AgentEvent I U (Value N)) :=
  let calls := if self.cancelled then [] else self.partials.filterMap (endedCall json)
  ({ content := if self.currentText = "" then self.contentBlocks
      else self.contentBlocks ++ [self.currentText]
     toolCalls := calls
     usage := self.usage
     stopReason := if self.cancelled then some .endTurn else self.stopReason
     hasIncompleteToolCalls := !self.cancelled &&
      self.partials.any (fun part => (endedCall json part).isNone) },
    calls.map (fun call => .toolCallReady call.id call.name call.arguments))

def checkpoint (json : JsonText N) (self : StreamingAccumulator U) (upstreamModel : String)
    (now : Nat) (handle : CheckpointHandle) : StreamCheckpoint N :=
  let snapshot := self.interruptSnapshot json
  { runId := handle.runId
    threadId := handle.threadId
    upstreamModel := upstreamModel
    partialText := snapshot.text.getD ""
    completedToolCalls := snapshot.completedToolCalls
    inFlightTool := snapshot.inFlightTool
    updatedAtMs := now }

end StreamingAccumulator

def StreamCheckpoint.restore (json : JsonText N) (saved : StreamCheckpoint N) :
    InterruptSnapshot N :=
  .fromPartials json (if saved.partialText = "" then none else some saved.partialText)
    (saved.completedToolCalls.map (fun c => ⟨c.id, c.name, json.toText c.arguments⟩) ++
      (saved.inFlightTool.map (fun p => ⟨p.id, p.name, p.partialArgs⟩)).toList)
    saved.partialText.utf8ByteSize

end Awaken.LoopRunner
