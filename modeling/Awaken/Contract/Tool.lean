import Awaken.Lib.Table
import Awaken.Contract.Message
import Awaken.State.Command

namespace Awaken.Contract

open Awaken.Lib Awaken.State
open Awaken.Agent.LoopState (ToolCallResumeMode ToolCallResume)

structure JsonLib (J : Type) where
  null : J
  bool : Bool → J
  string : String → J
  object : List (String × J) → J
  render : J → String

variable {J : Type}

structure Suspension (J : Type) where
  id : String
  action : String
  message : String
  parameters : J
  responseSchema : Option J

structure PendingToolCall (J : Type) where
  id : String
  name : String
  arguments : J

structure SuspendTicket (J : Type) where
  suspension : Suspension J
  pending : PendingToolCall J
  resumeMode : ToolCallResumeMode

inductive ToolStatus where
  | success
  | pending
  | error
deriving DecidableEq

structure ToolResult (J : Type) where
  toolName : String
  status : ToolStatus
  data : J
  message : Option String
  suspension : Option (SuspendTicket J)
  metadata : Table String J

namespace ToolResult

variable (json : JsonLib J)

def success (toolName : String) (data : J) : ToolResult J :=
  ⟨toolName, .success, data, none, none, .empty⟩

def error (toolName message : String) : ToolResult J :=
  ⟨toolName, .error, json.null, some message, none, .empty⟩

def suspendedWith (toolName message : String) (ticket : SuspendTicket J) : ToolResult J :=
  ⟨toolName, .pending, json.null, some message, some ticket, .empty⟩

def withMetadata (self : ToolResult J) (key : String) (value : J) : ToolResult J :=
  { self with metadata := self.metadata.insert key value }

def toContent (self : ToolResult J) : String :=
  match self.message with
  | some message => message
  | none => json.render self.data

def toResumePayload (self : ToolResult J) : J :=
  match self.status with
  | .success =>
    if self.metadata.entries.isEmpty then self.data
    else json.object [("data", self.data), ("metadata", json.object self.metadata.entries)]
  | .error =>
    match self.message with
    | some message => json.object [("error", json.string message)]
    | none => self.data
  | .pending => json.null

end ToolResult

inductive ToolCallOutcome where
  | suspended
  | succeeded
  | failed
deriving DecidableEq

def ToolCallOutcome.fromToolResult (result : ToolResult J) : ToolCallOutcome :=
  match result.status with
  | .pending => .suspended
  | .error => .failed
  | .success => .succeeded

inductive ToolInterceptPayload (J : Type) where
  | block (reason : String)
  | suspend (ticket : SuspendTicket J)
  | setResult (result : ToolResult J)

def ToolInterceptPayload.priority : ToolInterceptPayload J → Nat
  | .block _ => 3
  | .suspend _ => 2
  | .setResult _ => 1

def overrule (winner : Option (ToolInterceptPayload J)) (payload : ToolInterceptPayload J) :
    Option (ToolInterceptPayload J) :=
  match winner with
  | none => some payload
  | some existing => if payload.priority > existing.priority then some payload else some existing

def resolveInterceptPayloads (payloads : List (ToolInterceptPayload J)) :
    Option (ToolInterceptPayload J) :=
  payloads.foldl overrule none

inductive ToolError where
  | invalidArguments (text : String)
  | executionFailed (text : String)
  | timeout (text : String)
  | cancelled (text : String)
  | denied (text : String)
  | notFound (text : String)
  | internal (text : String)
deriving DecidableEq

def ToolError.display : ToolError → String
  | .invalidArguments text => "Invalid arguments: " ++ text
  | .executionFailed text => "Execution failed: " ++ text
  | .timeout text => "Timeout: " ++ text
  | .cancelled text => "Cancelled: " ++ text
  | .denied text => "Denied: " ++ text
  | .notFound text => "Not found: " ++ text
  | .internal text => "Internal error: " ++ text

def toolErrorResult (json : JsonLib J) (toolName : String) (error : ToolError) : ToolResult J :=
  let result := ToolResult.error json toolName error.display
  match error with
  | .timeout _ => result.withMetadata "timed_out" (json.bool true)
  | _ => result

end Awaken.Contract
