import Awaken.Contract.Lifecycle
import Awaken.Contract.Tool

namespace Awaken.Contract.Event

open Awaken.Contract Awaken.Contract.Lifecycle

inductive AgentEvent (I U J : Type) where
  | runStart (threadId runId : String) (parentRunId : Option String) (identity : Option I)
  | runFinish (threadId runId : String) (identity : Option I) (result : Option J)
      (termination : TerminationReason)
  | textDelta (delta : String)
  | reasoningDelta (delta : String)
  | toolCallStart (id name : String)
  | toolCallDelta (id argsDelta : String)
  | toolCallReady (id name : String) (arguments : J)
  | toolCallDone (id messageId : String) (result : ToolResult J) (outcome : ToolCallOutcome)
  | toolCallStreamDelta (id name delta : String)
  | reasoningEncryptedValue (encryptedValue : String)
  | messagesSnapshot (messages : List J)
  | activitySnapshot (messageId activityType : String) (content : J) (replace : Option Bool)
  | activityDelta (messageId activityType : String) (patch : List J)
  | toolCallResumed (targetId : String) (result : J)
  | toolCallCancel (id name reason : String)
  | streamReset (reason : String)
  | stepStart (messageId : String)
  | stepEnd
  | inferenceComplete (model : String) (usage : Option U) (durationMs : Nat)
  | stateSnapshot (snapshot : J)
  | stateDelta (delta : List J)
  | error (message : String) (code : Option String)

structure JsonReader (U J : Type) extends JsonLib J where
  array : List J → J
  natural : Nat → J
  usage : U → J
  asObject : J → Option (List (String × J))
  asString : J → Option String
  asBool : J → Option Bool

namespace JsonReader

variable {U J : Type} (json : JsonReader U J)

def getField (value : J) (name : String) : Option J :=
  ((json.asObject value).bind (fun fields => fields.find? (·.1 = name))).map Prod.snd

def getString (value : J) (name : String) : Option String :=
  (json.getField value name).bind json.asString

def orNull {α : Type} (write : α → J) : Option α → J
  | some a => write a
  | none => json.null

end JsonReader

end Awaken.Contract.Event
