import Mathlib.Algebra.Group.Nat.Defs
import Awaken.Lib.Joined
import Awaken.Lib.Text
import Awaken.Background.State

namespace Awaken.Background

set_option linter.dupNamespace false

open Awaken.Lib Awaken.State

variable {J : Type} {codecs : BackgroundCodecs J}

inductive SpawnError where
  | reservedName (name : String)
  | duplicateName (name : String)
  | state (error : StateError)
  | parentRunCancelled (runId : String)

structure BackgroundTaskExecutionContext where
  taskId : String
  runId : Option String

structure ToolLineageContext where
  runId : String
  callId : String
  agentId : String

structure Ambient where
  task : Option BackgroundTaskExecutionContext
  lineage : Option ToolLineageContext

structure TaskHandle where
  taskId : String
  ownerThreadId : String
  cancelled : Bool

structure BackgroundTaskManager where
  handles : Table String TaskHandle
  counter : Nat
  cancelledRunIds : List String

def reservedNames : List String := ["parent", "self", "all", "broadcast"]

def tasksOf (store : StateStore (backgroundKeys codecs)) : Table String (PersistedTaskMeta J) :=
  ((store.read .tasks).getD ⟨.empty⟩ : BackgroundTaskStateSnapshot J).tasks

def commitMeta (store : StateStore (backgroundKeys codecs)) (action : BackgroundTaskStateAction J) :
    Except StateError Nat × StateStore (backgroundKeys codecs) :=
  store.commit (.update .new .tasks action)

/-- The digits of a `u64`, as `str::parse` reads them. -/
def parseDigits (digits : List Char) : Option Nat :=
  if digits ≠ [] ∧ digits.all Char.isDigit ∧ Nat.ofDigitChars 10 digits 0 < 2 ^ 64 then
    some (Nat.ofDigitChars 10 digits 0)
  else none

def parseU64 : List Char → Option Nat
  | '+' :: digits => parseDigits digits
  | digits => parseDigits digits

def stripPrefix (stem text : List Char) : Option (List Char) :=
  if stem.isPrefixOf text then some (text.drop stem.length) else none

namespace BackgroundTaskManager

def new : BackgroundTaskManager := ⟨.empty, 0, []⟩

def nextTaskId (self : BackgroundTaskManager) : String × BackgroundTaskManager :=
  (numbered "bg" self.counter, { self with counter := (self.counter + 1) % 2 ^ 64 })

def validateName (store : StateStore (backgroundKeys codecs)) (name ownerThreadId : String) :
    Except SpawnError Unit :=
  if name ∈ reservedNames then .error (.reservedName name)
  else if (tasksOf store).values.any (fun record => record.ownerThreadId = ownerThreadId &&
      !record.status.isTerminal && record.name = some name) then .error (.duplicateName name)
  else .ok ()

def adoptTask (ambient : Ambient) (context : TaskParentContext) : TaskParentContext :=
  match ambient.task with
  | some task =>
    if context.taskId.isNone then
      { context with runId := context.runId.or task.runId, taskId := some task.taskId }
    else context
  | none => context

def adoptLineage (ambient : Ambient) (context : TaskParentContext) : TaskParentContext :=
  match ambient.lineage with
  | some lineage =>
    { context with
      runId := context.runId.or (some lineage.runId)
      callId := context.callId.or (if lineage.callId = "" then none else some lineage.callId)
      agentId := context.agentId.or (if lineage.agentId = "" then none else some lineage.agentId) }
  | none => context

def mergeAmbientParentContext (ambient : Ambient) (context : TaskParentContext) :
    TaskParentContext :=
  adoptLineage ambient (adoptTask ambient context)

def parentRunId (context : TaskParentContext) : Option String :=
  (context.runId.map Text.trim).filter (fun runId => runId ≠ "")

def isParentRunCancelled (self : BackgroundTaskManager) (context : TaskParentContext) :
    Option String :=
  (parentRunId context).filter (fun runId => runId ∈ self.cancelledRunIds)

def signal (self : BackgroundTaskManager) (taskId : String) : BackgroundTaskManager :=
  { self with handles := self.handles.modify taskId (fun handle => { handle with cancelled := true }) }

def insertHandleAndCancelIfParentRunCancelled (self : BackgroundTaskManager) (taskId : String)
    (handle : TaskHandle) (context : TaskParentContext) : BackgroundTaskManager :=
  let self := { self with handles := self.handles.insert taskId handle }
  if (self.isParentRunCancelled context).isSome then self.signal taskId else self

def hasRunning (self : BackgroundTaskManager) (store : StateStore (backgroundKeys codecs))
    (ownerThreadId : String) : Bool :=
  match store.read .tasks with
  | some snapshot => (snapshot : BackgroundTaskStateSnapshot J).tasks.values.any (fun record =>
      record.ownerThreadId = ownerThreadId && !record.status.isTerminal)
  | none => self.handles.values.any (fun handle => handle.ownerThreadId = ownerThreadId)

end BackgroundTaskManager

structure SpawnArgs where
  ownerThreadId : String
  taskType : String
  name : Option String
  description : String
  parentContext : TaskParentContext
  ambient : Ambient
  now : Nat

def SpawnArgs.context (self : SpawnArgs) : TaskParentContext :=
  BackgroundTaskManager.mergeAmbientParentContext self.ambient self.parentContext

def SpawnArgs.record (self : SpawnArgs) (taskId : String) : PersistedTaskMeta J where
  taskId := taskId
  ownerThreadId := self.ownerThreadId
  taskType := self.taskType
  name := self.name
  description := self.description
  status := .running
  error := none
  result := none
  createdAtMs := self.now
  completedAtMs := none
  parentContext := self.context

def PersistedTaskMeta.completed (self : PersistedTaskMeta J) (result : TaskResult J) (now : Nat) :
    PersistedTaskMeta J :=
  match result with
  | .success value =>
    { self with status := .completed, error := none, result := some value, completedAtMs := some now }
  | .failed error =>
    { self with status := .failed, error := some error, result := none, completedAtMs := some now }
  | .cancelled =>
    { self with status := .cancelled, error := none, result := none, completedAtMs := some now }

structure Background (codecs : BackgroundCodecs J) where
  manager : BackgroundTaskManager
  store : StateStore (backgroundKeys codecs)
  futures : List (PersistedTaskMeta J)

namespace Background

def tasks (self : Background codecs) : Table String (PersistedTaskMeta J) := tasksOf self.store

def checkName (self : Background codecs) (args : SpawnArgs) : Except SpawnError Unit :=
  match args.name with
  | some name => BackgroundTaskManager.validateName self.store name args.ownerThreadId
  | none => .ok ()

def checkParentRun (self : Background codecs) (args : SpawnArgs) : Except SpawnError Unit :=
  match self.manager.isParentRunCancelled args.context with
  | some runId => .error (.parentRunCancelled runId)
  | none => .ok ()

def checkSpawn (self : Background codecs) (args : SpawnArgs) : Except SpawnError Unit := do
  self.checkName args
  self.checkParentRun args

def launch (self : Background codecs) (taskId : String) (args : SpawnArgs) :
    Except SpawnError String × Background codecs :=
  match commitMeta self.store (.upsert (args.record taskId)) with
  | (.error e, store) => (.error (.state e), { self with store := store })
  | (.ok _, store) =>
    let manager := self.manager.insertHandleAndCancelIfParentRunCancelled taskId
      ⟨taskId, args.ownerThreadId, false⟩ args.context
    (.ok taskId, ⟨manager, store, self.futures ++ [args.record taskId]⟩)

def spawn (self : Background codecs) (args : SpawnArgs) :
    Except SpawnError String × Background codecs :=
  let reserved := self.manager.nextTaskId
  let self := { self with manager := reserved.2 }
  match self.checkSpawn args with
  | .error e => (.error e, self)
  | .ok () => self.launch reserved.1 args

def spawnAgent (self : Background codecs) (args : SpawnArgs) :
    Except SpawnError String × Background codecs :=
  match self.checkSpawn args with
  | .error e => (.error e, self)
  | .ok () =>
    let reserved := self.manager.nextTaskId
    let self := { self with manager := reserved.2 }
    self.launch reserved.1 { args with taskType := "sub_agent" }

def complete (self : Background codecs) (index : Nat) (result : TaskResult J) (now : Nat) :
    Background codecs :=
  match self.futures[index]? with
  | none => self
  | some record =>
    let store := (commitMeta self.store (.upsert (record.completed result now))).2
    ⟨self.manager, store, self.futures.eraseIdx index⟩

def restoreEntry (ownerThreadId : String) (existing : Table String (PersistedTaskMeta J))
    (self : Background codecs) (entry : String × PersistedTaskMeta J) : Background codecs :=
  if (existing.get entry.1).isSome then self
  else
    let number := (stripPrefix "bg_".toList entry.1.toList).bind parseU64
    let counter := number.elim self.manager.counter
      (fun n => max self.manager.counter (min (n + 1) (2 ^ 64 - 1)))
    let live := (self.manager.handles.get entry.1).isSome
    let owned := { entry.2 with ownerThreadId := ownerThreadId }
    let record := if entry.2.status = .running ∧ live = false then
        { owned with status := .failed, error := some "task orphaned: runtime restarted while running" }
      else owned
    { self with
      manager := { self.manager with counter := counter }
      store := (commitMeta self.store (.upsert record)).2 }

def restoreForThread (self : Background codecs) (ownerThreadId : String)
    (snapshot : BackgroundTaskStateSnapshot J) : Background codecs :=
  snapshot.tasks.entries.foldl (restoreEntry ownerThreadId self.tasks) self

end Background

def syncHook (phase : Phase) (threadId : String) (snapshot : Snapshot (backgroundKeys codecs))
    (self : Background codecs) : StateCommand (backgroundKeys codecs) × Background codecs :=
  match phase with
  | .runStart => (.new, self.restoreForThread threadId ((snapshot.get .tasks).getD ⟨.empty⟩))
  | .stepEnd =>
    (.update .new .pendingWork (self.manager.hasRunning self.store threadId), self)
  | _ => (.new, self)

end Awaken.Background
