import Awaken.Lib.CharBoundary
import Awaken.Contract.InterruptSnapshot
import Awaken.Lib.Table

namespace Awaken.Engine.Streaming

open Awaken.Lib Awaken.Contract Awaken.Contract.Executor

inductive StreamOutput where
  | textDelta (text : List Char)
  | reasoningDelta (text : List Char)
  | toolCallStart (id name : String)
  | toolCallDelta (id : String) (argsDelta : List Char)
  | none
deriving DecidableEq

structure PartialToolCall where
  id : String
  name : String
  arguments : List Char
  startEmitted : Bool
deriving DecidableEq

variable {N : Type}

structure ToolCallChunk (N : Type) where
  callId : String
  fnName : String
  fnArguments : Value N

structure StreamEnd (N : Type) where
  capturedToolCalls : Option (List (ToolCallChunk N))
  capturedFirstText : Option (List Char)

inductive ChatStreamEvent (N : Type) where
  | start
  | chunk (content : List Char)
  | reasoningChunk (content : List Char)
  | thoughtSignatureChunk
  | toolCallChunk (toolCall : ToolCallChunk N)
  | «end» (captured : StreamEnd N)

def toolArgsHaveContent : Value N → Bool
  | .null => false
  | .string s => !s.toList.isEmpty
  | .array items => !items.isEmpty
  | .object fields => !fields.isEmpty
  | _ => true

def argsStr (toText : Value N → List Char) : Value N → List Char
  | .string s => s.toList
  | other => toText other

/-- What the arguments have beyond a byte length; `none` where it is no character boundary. -/
def argsDelta (prevArgsLen : Nat) (args : List Char) : Option (List Char) :=
  if prevArgsLen < utf8Len args then sliceFrom args prevArgsLen else some []

structure Received where
  entry : PartialToolCall
  delta : List Char
  output : StreamOutput
  pending : List StreamOutput
deriving DecidableEq

def PartialToolCall.fresh (id : String) : PartialToolCall := ⟨id, "", [], false⟩

def PartialToolCall.receive (toText : Value N → List Char) (entry : PartialToolCall)
    (call : ToolCallChunk N) : Option Received :=
  let name := if call.fnName = "" then entry.name else call.fnName
  let args := argsStr toText call.fnArguments
  (argsDelta (utf8Len entry.arguments) args).map fun delta =>
    if !entry.startEmitted && name ≠ "" then {
      entry := ⟨entry.id, name, args, true⟩
      delta := delta
      output := .toolCallStart call.callId name
      pending := if toolArgsHaveContent call.fnArguments
        then [.toolCallDelta call.callId args] else [] }
    else {
      entry := ⟨entry.id, name, args, entry.startEmitted⟩
      delta := delta
      output := if entry.startEmitted && !delta.isEmpty
        then .toolCallDelta call.callId delta else .none
      pending := [] }

structure StreamCollector where
  text : List Char
  toolCalls : Table String PartialToolCall
  toolCallOrder : List String
  pendingOutputs : List StreamOutput
  endSeen : Bool
  bytesReceived : Nat

namespace StreamCollector

def new : StreamCollector := ⟨[], .empty, [], [], false, 0⟩

def entry (self : StreamCollector) (id : String) : PartialToolCall :=
  (self.toolCalls.get id).getD (.fresh id)

def capture (toText : Value N → List Char) (self : StreamCollector) (call : ToolCallChunk N) :
    StreamCollector :=
  { self with
    toolCallOrder := self.toolCallOrder ++ [call.callId]
    toolCalls := self.toolCalls.insert call.callId
      ⟨call.callId, call.fnName, toText call.fnArguments, true⟩ }

def applyEnd (toText : Value N → List Char) (self : StreamCollector) (captured : StreamEnd N) :
    StreamCollector :=
  let self := { self with endSeen := true }
  let self := match captured.capturedToolCalls with
    | some calls =>
      calls.foldl (capture toText) { self with toolCalls := .empty, toolCallOrder := [] }
    | none => self
  match captured.capturedFirstText with
  | some text => { self with text := text }
  | none => self

/-- `none` is the panic of a slice that is not at a character boundary. -/
def process (toText : Value N → List Char) (self : StreamCollector) :
    ChatStreamEvent N → Option (StreamCollector × StreamOutput)
  | .start => some (self, .none)
  | .chunk content => some ({ self with
      bytesReceived := self.bytesReceived + utf8Len content
      text := self.text ++ content }, .textDelta content)
  | .reasoningChunk content => some ({ self with
      bytesReceived := self.bytesReceived + utf8Len content }, .reasoningDelta content)
  | .thoughtSignatureChunk => some (self, .none)
  | .toolCallChunk call =>
    ((self.entry call.callId).receive toText call).map fun received => ({ self with
      toolCalls := self.toolCalls.insert call.callId received.entry
      toolCallOrder := if (self.toolCalls.get call.callId).isNone
        then self.toolCallOrder ++ [call.callId] else self.toolCallOrder
      bytesReceived := self.bytesReceived + utf8Len received.delta
      pendingOutputs := self.pendingOutputs ++ received.pending }, received.output)
  | .end captured => some (self.applyEnd toText captured, .none)

def feed (toText : Value N → List Char) (self : StreamCollector) (event : ChatStreamEvent N) :
    Option (StreamCollector × List StreamOutput) :=
  (self.process toText event).map fun (self, output) =>
    ({ self with pendingOutputs := [] }, output :: self.pendingOutputs)

def feedAll (toText : Value N → List Char) (self : StreamCollector) :
    List (ChatStreamEvent N) → Option (StreamCollector × List StreamOutput)
  | [] => some (self, [])
  | event :: events =>
    (self.feed toText event).bind fun (self, outputs) =>
      (self.feedAll toText events).map fun (self, more) => (self, outputs ++ more)

end StreamCollector

end Awaken.Engine.Streaming
