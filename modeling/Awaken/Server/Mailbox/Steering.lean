import Awaken.Stores.MemoryStore.Ledger
import Awaken.Server.Mailbox.FinishedRuns

namespace Awaken.Server.Mailbox

open Awaken.Lib Awaken.Contract Awaken.Contract.Storage Awaken.Contract.Lifecycle
open Awaken.Contract.Mailbox Awaken.Stores.MemoryStore

variable {J C : Type}

inductive SteerRoute where
  | here
  | remote

structure SteerEnv (J C : Type) where
  env : Env J C
  localActive : Option String
  wakePendingBoundary : Bool
  /-- Whether someone is subscribed. -/
  deliverLiveTo : Except StorageError Bool
  enqueue : Except MailboxError Unit

def SteerEnv.wake (self : SteerEnv J C) : SteerRoute → Except StorageError Bool
  | .here => .ok self.wakePendingBoundary
  | .remote => self.deliverLiveTo

inductive SteerPhase (J C : Type) where
  | choosing (expectedRunId : Option String)
  | locating (expectedRunId : Option String)
  | delivering (route : SteerRoute) (runId : String)
  | waking (route : SteerRoute) (runId : String) (pendingIds : List String)
  | cleaning (pendingIds : List String)
  | preparing (call : CallPhase J C)
  | returned (result : Except MailboxError String)

structure SteerWorld (J C : Type) where
  store : InMemoryStore J C
  request : RunActivation J C
  threadId : String
  messages : List (Message J C)
  phase : SteerPhase J C

def steerMode (runId : String) : DeliveryMode := (DeliveryMode.nextStep .batch).targetedToRun runId false

namespace SteerWorld

def submit (store : InMemoryStore J C) (env : Env J C) (request : RunActivation J C)
    (expectedRunId : Option String) : Except MailboxError (SteerWorld J C) := do
  let (threadId, messages) ← validateRunInputs env.threadId request.intent.threadId request.messages
    (!request.seededDecisions.isEmpty)
  return ⟨store, request, threadId, normalizeMessageIds env.gen messages, .choosing expectedRunId⟩

variable (self : SteerWorld J C)

def fallBack (env : Env J C) : SteerPhase J C :=
  match submission env true { self.request with
      intent := { self.request.intent with threadId := self.threadId }
      messages := self.messages } with
  | .error e => .returned (.error e)
  | .ok call => .preparing (.routing call)

variable [DecidableEq J]

def advance (message : String → J) (env : SteerEnv J C) : SteerWorld J C :=
  match self.phase with
  | .choosing expectedRunId =>
    if self.messages.isEmpty then { self with phase := self.fallBack env.env }
    else
      match env.localActive with
      | some runId =>
        if expectedRunId.any (· ≠ runId) then { self with phase := self.fallBack env.env }
        else { self with phase := .delivering .here runId }
      | none => { self with phase := .locating expectedRunId }
  | .locating expectedRunId =>
    match self.store.latestRun self.threadId with
    | none => { self with phase := self.fallBack env.env }
    | some run =>
      if run.status ≠ .running || expectedRunId.any (· ≠ run.runId) then
        { self with phase := self.fallBack env.env }
      else { self with phase := .delivering .remote run.runId }
  | .delivering route runId =>
    match self.store.appendPendingMessageRecords env.env.gen env.env.now self.threadId
        (normalizeMessageIds env.env.gen self.messages) (steerMode runId) with
    | (.error e, store) => { self with store := store, phase := .returned (.error (.store e)) }
    | (.ok appended, store) =>
      { self with store := store, phase := .waking route runId (pendingIds appended) }
  | .waking route runId pendingIds =>
    match env.wake route with
    | .error e => { self with phase := .returned (.error (.store e)) }
    | .ok true => { self with phase := .returned (.ok runId) }
    | .ok false => { self with phase := .cleaning pendingIds }
  | .cleaning [] => { self with phase := self.fallBack env.env }
  | .cleaning (pendingId :: pendingIds) =>
    -- what a retraction answers is not looked at
    { self with
      store := (self.store.retractPendingMessageRecordChecked self.threadId pendingId none).2
      phase := .cleaning pendingIds }
  | .preparing (.returned (.ok (.prepared _ _ runId))) =>
    match env.enqueue with
    | .error e => { self with phase := .returned (.error e) }
    | .ok () => { self with phase := .returned (.ok runId) }
  | .preparing (.returned (.error e)) => { self with phase := .returned (.error e) }
  | .preparing call =>
    let (store, call) := call.advance true message env.env self.store
    { self with store := store, phase := .preparing call }
  | .returned _ => self

def accepted (env : SteerEnv J C) : Option String :=
  match self.phase with
  | .waking route runId _ => if env.wake route matches .ok true then some runId else none
  | .preparing (.returned (.ok (.prepared _ _ runId))) =>
    if env.enqueue matches .ok () then some runId else none
  | _ => none

end SteerWorld

def TakesNothing (threadId : String) (call : StoreCall J C) : Prop :=
  call.threadId = some threadId →
    match call with
    | .appendMessageRecords .. | .checkpointAppend .. | .appendPending .. | .freezePending ..
    | .freezePendingWithRun .. | .appendAndFreezePendingWithRun .. => True
    | _ => False

inductive SteerLabel (J C : Type) where
  | advance (env : SteerEnv J C)
  | others (call : StoreCall J C)

/-- The run at work freezes the queue at its boundaries, and it or others write the record that
ends it. -/
inductive SteerStep (message : String → J) [DecidableEq J] :
    SteerWorld J C → SteerLabel J C → SteerWorld J C → Prop
  | advance {w : SteerWorld J C} (env : SteerEnv J C) :
      (∀ result, w.phase ≠ .returned result) → SteerStep message w (.advance env) (w.advance message env)
  | others {w : SteerWorld J C} {call : StoreCall J C} {store : InMemoryStore J C} :
      TakesNothing w.threadId call → StoreStep w.store call store →
      SteerStep message w (.others call) { w with store := store }

end Awaken.Server.Mailbox
