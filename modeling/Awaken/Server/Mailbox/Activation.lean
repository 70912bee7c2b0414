import Awaken.Contract.RunRecord
import Awaken.LoopRunner.Checkpoint

namespace Awaken.Server.Mailbox

open Awaken.Lib.Text Awaken.Contract Awaken.Contract.Storage Awaken.LoopRunner

variable {J C : Type}

inductive MailboxError where
  | validation (text : String)
  | store (error : StorageError)
  | resolution (context source : String)
  | internal (text : String)
  /-- An internal error whose text is that of the commit error. -/
  | commitCheckpoint (error : CommitError)
  | deliveryBlockedByBarrier (blockingPendingId : String)

inductive RunMode where
  | foreground
  | scheduled
  | resume
  | internalWake
deriving DecidableEq

inductive RunOrigin where
  | user
  | mcp
  | subagent
  | internal
deriving DecidableEq

inductive RegistryResolutionScope where
  | live
  | pinned (resolutionId : String)
deriving DecidableEq

structure RunActivation (J C : Type) where
  intent : RunIntent
  messages : List (Message J C)
  trace : RunTraceContext
  runMode : RunMode
  origin : RunOrigin
  seededDecisions : List String
  runIdHint : Option String
  dispatchIdHint : Option String
  resolutionIdHint : Option String
  hasRunResolver : Bool

namespace RunActivation

def resumeRunId (self : RunActivation J C) : Option String :=
  match self.intent.kind with
  | .hitlResume runId | .continuationFromRun runId => some runId
  | .newIntent => none

def normalizeMailboxRunMode (self : RunActivation J C) (background : Bool) : RunActivation J C :=
  if self.runMode ≠ .foreground then self
  else
    { self with
      runMode :=
        if !self.seededDecisions.isEmpty || self.resumeRunId.isSome then .resume
        else if self.origin = .internal then .internalWake
        else if background then .scheduled
        else .foreground }

/-- `drawn` is the id that is generated when the request has none. -/
def ensureDispatchIdHint (self : RunActivation J C) (drawn : String) : String × RunActivation J C :=
  match self.dispatchIdHint with
  | some id => if !isBlank id then (id, self) else (drawn, { self with dispatchIdHint := some drawn })
  | none => (drawn, { self with dispatchIdHint := some drawn })

end RunActivation

def validateRunInputs (drawn threadId : String) (messages : List (Message J C))
    (allowEmptyMessages : Bool) : Except MailboxError (String × List (Message J C)) :=
  if messages.isEmpty && !allowEmptyMessages then
    .error (.validation "at least one message is required")
  else .ok (if (trim threadId).isEmpty then drawn else trim threadId, messages)

/-- `gen` are the ids drawn for the messages that have none. -/
def normalizeMessageIds (gen : Nat → String) (messages : List (Message J C)) :
    List (Message J C) :=
  messages.mapIdx fun index message =>
    if message.id.all (·.isEmpty) then { message with id := some (gen index) } else message

def buildRunInput (threadId : String) (lastSeq : Nat) (triggerMessageIds : List String) :
    RunInputSnapshot × RunMessageInput :=
  let range := if 1 ≤ lastSeq then some ⟨1, lastSeq⟩ else none
  (⟨threadId, range, triggerMessageIds, [], none, none⟩,
    ⟨threadId, range, triggerMessageIds, [], none, none⟩)

def runActivationSnapshot (request : RunActivation J C) (persistedInput : RunInputSnapshot)
    (resolutionId : Option String) : RunActivationSnapshot where
  intent := request.intent
  input := persistedInput
  trace := request.trace
  seededDecisions := request.seededDecisions
  resolutionId := resolutionId

end Awaken.Server.Mailbox
