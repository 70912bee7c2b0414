import Awaken.Lib.Table
import Awaken.State.Persistence

namespace Awaken.Background

open Awaken.Lib Awaken.State

variable {J : Type}

section Tasks

inductive TaskStatus where
  | running
  | completed
  | failed
  | cancelled
deriving DecidableEq

namespace TaskStatus

def isTerminal (self : TaskStatus) : Bool := self ≠ running

end TaskStatus

inductive TaskResult (J : Type) where
  | success (value : J)
  | failed (error : String)
  | cancelled

structure TaskParentContext where
  taskId : Option String
  runId : Option String
  callId : Option String
  agentId : Option String
deriving DecidableEq

structure PersistedTaskMeta (J : Type) where
  taskId : String
  ownerThreadId : String
  taskType : String
  name : Option String
  description : String
  status : TaskStatus
  error : Option String
  result : Option J
  createdAtMs : Nat
  completedAtMs : Option Nat
  parentContext : TaskParentContext

structure BackgroundTaskStateSnapshot (J : Type) where
  tasks : Table String (PersistedTaskMeta J)

inductive BackgroundTaskStateAction (J : Type) where
  | upsert (record : PersistedTaskMeta J)
  | replaceAll (tasks : Table String (PersistedTaskMeta J))

def BackgroundTaskStateSnapshot.reduce (self : BackgroundTaskStateSnapshot J) :
    BackgroundTaskStateAction J → BackgroundTaskStateSnapshot J
  | .upsert record => ⟨self.tasks.insert record.taskId record⟩
  | .replaceAll tasks => ⟨tasks⟩

structure PendingWorkState where
  hasPending : Bool
deriving DecidableEq

end Tasks

section Messages

structure DurableMessageRequest where
  messageId : String
  recipientThreadId : String
  recipientAgentId : Option String
  senderAgentId : String
  message : String
deriving DecidableEq

inductive OutboxRoute where
  | childInbox (taskId ownerThreadId senderAgentId message : String)
  | durable (request : DurableMessageRequest)
deriving DecidableEq

structure OutboxEntry where
  id : String
  route : OutboxRoute
  attempts : Nat
deriving DecidableEq

structure MessageOutbox where
  pending : List OutboxEntry
deriving DecidableEq

inductive MessageOutboxUpdate where
  | enqueue (entry : OutboxEntry)
  | remove (id : String)

def MessageOutbox.reduce (self : MessageOutbox) : MessageOutboxUpdate → MessageOutbox
  | .enqueue entry => ⟨self.pending ++ [entry]⟩
  | .remove id => ⟨self.pending.filter (fun entry => entry.id ≠ id)⟩

structure FailedDurableMessage where
  request : DurableMessageRequest
  error : String
deriving DecidableEq

structure FailedDurableMessageState where
  messages : List FailedDurableMessage
deriving DecidableEq

inductive FailedDurableMessageUpdate where
  | push (message : FailedDurableMessage)
  | clear

def FailedDurableMessageState.reduce (self : FailedDurableMessageState) :
    FailedDurableMessageUpdate → FailedDurableMessageState
  | .push message => ⟨self.messages ++ [message]⟩
  | .clear => ⟨[]⟩

end Messages

section Keys

inductive BackgroundKey where
  | tasks
  | messageOutbox
  | failedDurableMessages
  | pendingWork
deriving DecidableEq

structure BackgroundCodecs (J : Type) where
  tasks : Codec J (BackgroundTaskStateSnapshot J)
  messageOutbox : Codec J MessageOutbox
  failedDurableMessages : Codec J FailedDurableMessageState
  pendingWork : Codec J PendingWorkState

abbrev backgroundTaskStateKey (codec : Codec J (BackgroundTaskStateSnapshot J)) : StateKey J where
  key := "background_task_state"
  merge := .exclusive
  Value := BackgroundTaskStateSnapshot J
  Update := BackgroundTaskStateAction J
  default := ⟨.empty⟩
  apply := BackgroundTaskStateSnapshot.reduce
  codec := codec

abbrev messageOutboxKey (codec : Codec J MessageOutbox) : StateKey J where
  key := "background_message_outbox"
  merge := .exclusive
  Value := MessageOutbox
  Update := MessageOutboxUpdate
  default := ⟨[]⟩
  apply := MessageOutbox.reduce
  codec := codec

abbrev failedDurableMessageKey (codec : Codec J FailedDurableMessageState) : StateKey J where
  key := "background_failed_durable_messages"
  merge := .exclusive
  Value := FailedDurableMessageState
  Update := FailedDurableMessageUpdate
  default := ⟨[]⟩
  apply := FailedDurableMessageState.reduce
  codec := codec

abbrev pendingWorkKey (codec : Codec J PendingWorkState) : StateKey J where
  key := "__runtime.pending_work"
  merge := .exclusive
  Value := PendingWorkState
  Update := Bool
  default := ⟨false⟩
  apply := fun _ update => ⟨update⟩
  codec := codec

abbrev backgroundKeys (codecs : BackgroundCodecs J) : BackgroundKey → StateKey J
  | .tasks => backgroundTaskStateKey codecs.tasks
  | .messageOutbox => messageOutboxKey codecs.messageOutbox
  | .failedDurableMessages => failedDurableMessageKey codecs.failedDurableMessages
  | .pendingWork => pendingWorkKey codecs.pendingWork

def threadOptions : StateKeyOptions := ⟨true, false, .thread⟩

def backgroundTaskPlugin : Plugin BackgroundKey :=
  ⟨"background_tasks", [(.tasks, threadOptions), (.messageOutbox, threadOptions),
    (.failedDurableMessages, threadOptions)]⟩

/-- The key that the loop's own plugin registers for the hook of this one. -/
def loopStatePlugin : Plugin BackgroundKey :=
  ⟨"__loop_state", [(.pendingWork, ⟨true, false, .run⟩)]⟩

def runStore (codecs : BackgroundCodecs J) : StateStore (backgroundKeys codecs) :=
  ((StateStore.new.installPlugin loopStatePlugin).2.installPlugin backgroundTaskPlugin).2

end Keys

end Awaken.Background
