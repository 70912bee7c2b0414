import Awaken.Background.State
import Awaken.Contract.AgentEvent

/-! The tool that queues a message and the hook that delivers what is queued. The sink and the
inboxes of live tasks are outside of the thread's state: they act on a world `W`. -/

namespace Awaken.Background

open Awaken.Lib Awaken.State Awaken.Contract
open Awaken.Contract.Event (JsonReader)

variable {J U W : Type} {codecs : BackgroundCodecs J}

structure ToolCallContext (codecs : BackgroundCodecs J) where
  threadId : String
  agentId : String
  parentThreadId : Option String
  snapshot : Snapshot (backgroundKeys codecs)

structure ToolOutput (codecs : BackgroundCodecs J) where
  result : ToolResult J
  command : StateCommand (backgroundKeys codecs)

namespace ToolOutput

def ofResult (result : ToolResult J) : ToolOutput codecs := ⟨result, .new⟩

def withCommand (result : ToolResult J) (command : StateCommand (backgroundKeys codecs)) :
    ToolOutput codecs :=
  ⟨result, command⟩

end ToolOutput

def required {α : Type} (value : Option α) (text : String) : Except ToolError α :=
  match value with
  | some value => .ok value
  | none => .error (.invalidArguments text)

inductive MessageError where
  | recipientNotFound
  | permissionDenied
  | recipientUnavailable
  | transportFailed (error : String)

def MessageError.display : MessageError → String
  | .recipientNotFound => "recipient_not_found"
  | .permissionDenied => "permission_denied"
  | .recipientUnavailable => "recipient_unavailable"
  | .transportFailed error => "transport_failed: " ++ error

structure SendMessageReceipt where
  messageId : String
  status : String
  error : Option String

namespace SendMessageTool

variable (json : JsonReader U J)

def resolveChild (name ownerThreadId : String) (ctx : ToolCallContext codecs) : Option String :=
  match ctx.snapshot.get .tasks with
  | none => none
  | some snapshot =>
    let live (record : PersistedTaskMeta J) : Bool :=
      record.ownerThreadId = ownerThreadId && !record.status.isTerminal
    if (snapshot.tasks.get name).any live then some name
    else (snapshot.tasks.values.find? (fun record => live record && record.name = some name)).map
      (·.taskId)

def makeReceipt (messageId : String) : SendMessageReceipt := ⟨messageId, "queued", none⟩

def makeError (code : MessageError) : SendMessageReceipt := ⟨"", "failed", some code.display⟩

def receiptJson (receipt : SendMessageReceipt) : J :=
  json.object ([("message_id", json.string receipt.messageId),
    ("status", json.string receipt.status)] ++
    receipt.error.toList.map (fun error => ("error", json.string error)))

def failedOutput (code : MessageError) : ToolOutput codecs :=
  .ofResult (.success "send_message" (receiptJson json (makeError code)))

def validateRelation (recipient : J) (relation : String) : Except ToolError Unit :=
  if relation = "child" then
    (required (json.getString recipient "name") "child requires 'name'").map (fun _ => ())
  else if relation = "agent" then
    (required (json.getString recipient "thread_id") "agent requires 'thread_id'").map (fun _ => ())
  else if relation = "parent" then .ok ()
  else .error (.invalidArguments ("unknown relation '" ++ relation ++ "'"))

def validateArgs (args : J) : Except ToolError Unit := do
  let recipient ← required (json.getField args "to") "missing 'to'"
  let relation ← required (json.getString recipient "relation") "missing 'to.relation'"
  validateRelation json recipient relation
  let _ ← required (json.getString args "message") "missing 'message'"
  return ()

def route (messageId : String) (recipient : J) (relation message : String)
    (ctx : ToolCallContext codecs) : Except ToolError (Except MessageError OutboxRoute) :=
  if relation = "child" then do
    let name ← required (json.getString recipient "name") "child requires 'name'"
    match resolveChild name ctx.threadId ctx with
    | some taskId => return .ok (.childInbox taskId ctx.threadId ctx.agentId message)
    | none => return .error .recipientNotFound
  else if relation = "parent" then
    match ctx.parentThreadId with
    | some parent => .ok (.ok (.durable ⟨messageId, parent, none, ctx.agentId, message⟩))
    | none => .ok (.error .recipientUnavailable)
  else if relation = "agent" then do
    let thread ← required (json.getString recipient "thread_id") "agent requires 'thread_id'"
    let agent := (json.getString recipient "agent_id").filter (fun agent => agent ≠ "")
    return .ok (.durable ⟨messageId, thread, agent, ctx.agentId, message⟩)
  else .error (.invalidArguments ("unknown relation '" ++ relation ++ "'"))

/-- `messageId` is the fresh UUID. -/
def execute (messageId : String) (args : J) (ctx : ToolCallContext codecs) :
    Except ToolError (ToolOutput codecs) := do
  validateArgs json args
  let recipient ← required (json.getField args "to") "missing 'to'"
  let relation ← required (json.getString recipient "relation") "missing 'to.relation'"
  let message ← required (json.getString args "message") "missing 'message'"
  match ← route json messageId recipient relation message ctx with
  | .error code => return failedOutput json code
  | .ok route =>
    let command : StateCommand (backgroundKeys codecs) := .update .new .messageOutbox
      (MessageOutboxUpdate.enqueue ⟨messageId, route, 0⟩)
    return .withCommand (.success "send_message" (receiptJson json (makeReceipt messageId))) command

end SendMessageTool

inductive SendError where
  | taskNotFound
  | notOwner
  | taskTerminated (status : TaskStatus)
  | noInbox
  | inboxClosed
deriving DecidableEq

abbrev DurableMessageSink (W : Type) := DurableMessageRequest → W → Except String String × W

def maxDurableAttempts : Nat := 5

structure MessageDispatchHook (W : Type) where
  sendTaskInboxMessage : String → String → String → String → W → Except SendError Unit × W
  durableSink : Option (DurableMessageSink W)

namespace MessageDispatchHook

variable (self : MessageDispatchHook W)

def deadLetter (cmd : StateCommand (backgroundKeys codecs)) (id : String)
    (message : FailedDurableMessage) : StateCommand (backgroundKeys codecs) :=
  (cmd.update .failedDurableMessages (FailedDurableMessageUpdate.push message)).update .messageOutbox
    (MessageOutboxUpdate.remove id)

def settle (cmd : StateCommand (backgroundKeys codecs)) (entry : OutboxEntry)
    (request : DurableMessageRequest) : Except String String →
      StateCommand (backgroundKeys codecs)
  | .ok _ => cmd.update .messageOutbox (MessageOutboxUpdate.remove entry.id)
  | .error error =>
    let next := entry.attempts + 1
    if next < maxDurableAttempts then
      (cmd.update .messageOutbox (MessageOutboxUpdate.remove entry.id)).update .messageOutbox
        (MessageOutboxUpdate.enqueue ⟨entry.id, .durable request, next⟩)
    else deadLetter cmd entry.id ⟨request, error⟩

def dispatch (sink : Option (DurableMessageSink W))
    (state : StateCommand (backgroundKeys codecs) × W) (entry : OutboxEntry) :
    StateCommand (backgroundKeys codecs) × W :=
  match entry.route with
  | .childInbox taskId ownerThreadId senderAgentId message =>
    let sent := self.sendTaskInboxMessage taskId ownerThreadId senderAgentId message state.2
    (state.1.update .messageOutbox (MessageOutboxUpdate.remove entry.id), sent.2)
  | .durable request =>
    match sink with
    | none =>
      (deadLetter state.1 entry.id ⟨request, "no durable transport configured"⟩, state.2)
    | some send =>
      let answer := send request state.2
      (settle state.1 entry request answer.1, answer.2)

def run (ambient : Option (DurableMessageSink W)) (snapshot : Snapshot (backgroundKeys codecs))
    (world : W) : StateCommand (backgroundKeys codecs) × W :=
  let sink := self.durableSink.or ambient
  let outbox : MessageOutbox := (snapshot.get .messageOutbox).getD ⟨[]⟩
  outbox.pending.foldl (self.dispatch sink) (.new, world)

end MessageDispatchHook

end Awaken.Background

namespace Awaken.Background.RecoverFailedMessagesTool

open Awaken.Lib Awaken.State Awaken.Contract
open Awaken.Contract.Event (JsonReader)

variable {J U : Type} {codecs : BackgroundCodecs J} (json : JsonReader U J)

def messageJson (failed : FailedDurableMessage) : J :=
  json.object [("message_id", json.string failed.request.messageId),
    ("recipient_thread_id", json.string failed.request.recipientThreadId),
    ("recipient_agent_id", json.orNull json.string failed.request.recipientAgentId),
    ("error", json.string failed.error)]

def listed (failed : FailedDurableMessageState) : J :=
  json.object [("action", json.string "list"), ("count", json.natural failed.messages.length),
    ("messages", json.array (failed.messages.map (messageJson json)))]

def counted (action : String) (failed : FailedDurableMessageState) : J :=
  json.object [("action", json.string action), ("count", json.natural failed.messages.length)]

def requeue (command : StateCommand (backgroundKeys codecs)) (failed : FailedDurableMessage) :
    StateCommand (backgroundKeys codecs) :=
  command.update .messageOutbox
    (MessageOutboxUpdate.enqueue ⟨failed.request.messageId, .durable failed.request, 0⟩)

def execute (args : J) (ctx : ToolCallContext codecs) : Except ToolError (ToolOutput codecs) :=
  let action := (json.getString args "action").getD "list"
  let failed : FailedDurableMessageState := (ctx.snapshot.get .failedDurableMessages).getD ⟨[]⟩
  let result := ToolResult.success (J := J) "recover_failed_messages"
  if action = "list" then .ok (.ofResult (result (listed json failed)))
  else if action = "replay" then
    let command := failed.messages.foldl requeue .new
    .ok (.withCommand (result (counted json "replay" failed))
      (command.update .failedDurableMessages FailedDurableMessageUpdate.clear))
  else if action = "clear" then
    .ok (.withCommand (result (counted json "clear" failed))
      (.update .new .failedDurableMessages FailedDurableMessageUpdate.clear))
  else .error (.invalidArguments ("unknown action '" ++ action ++ "'"))

end Awaken.Background.RecoverFailedMessagesTool
