import Awaken.Lib.Run
import Awaken.Lib.Walk
import Awaken.Background.Restart

namespace Awaken.Background

open Awaken.Lib Awaken.State

variable {J : Type} {codecs : BackgroundCodecs J}

def taskEdges (tasks : Table String (PersistedTaskMeta J)) : List (String × String) :=
  tasks.values.filterMap (fun record =>
    record.parentContext.taskId.map (fun parent => (parent, record.taskId)))

def taskTreeIds (store : StateStore (backgroundKeys codecs)) (taskId : String) :
    Option (List String) :=
  if ((tasksOf store).get taskId).isSome then some (walk (taskEdges (tasksOf store)) [taskId] [])
  else none

namespace BackgroundTaskManager

def signalLive (store : StateStore (backgroundKeys codecs)) (state : Nat × BackgroundTaskManager)
    (taskId : String) : Nat × BackgroundTaskManager :=
  if (state.2.handles.get taskId).isSome ∧
      ((tasksOf store).get taskId).all (fun record => !record.status.isTerminal) then
    (state.1 + 1, state.2.signal taskId)
  else state

/-- What `cancel_tree` does once it has the lock on the handles. -/
def signalTree (self : BackgroundTaskManager) (store : StateStore (backgroundKeys codecs))
    (taskIds : List String) : Nat × BackgroundTaskManager :=
  taskIds.foldl (signalLive store) (0, self)

def cancelTree (self : BackgroundTaskManager) (store : StateStore (backgroundKeys codecs))
    (taskId : String) : Nat × BackgroundTaskManager :=
  match taskTreeIds store taskId with
  | none => (0, self)
  | some taskIds => self.signalTree store taskIds

def markCancelled (self : BackgroundTaskManager) (runId : String) : BackgroundTaskManager :=
  { self with cancelledRunIds := runId :: self.cancelledRunIds }

def rootTaskIds (store : StateStore (backgroundKeys codecs)) (runId : String) : List String :=
  ((tasksOf store).values.filter (fun record => !record.status.isTerminal &&
    record.parentContext.runId = some runId && record.parentContext.taskId.isNone)).map (·.taskId)

def cancelDescendantsForRun (self : BackgroundTaskManager)
    (store : StateStore (backgroundKeys codecs)) (runId : String) : Nat × BackgroundTaskManager :=
  (rootTaskIds store runId).foldl (fun state taskId =>
    let cancelled := state.2.cancelTree store taskId
    (state.1 + cancelled.1, cancelled.2)) (0, self.markCancelled runId)

end BackgroundTaskManager

inductive SpawnPc where
  | entered
  | named
  | admitted
  | committed
  | launched
deriving DecidableEq

structure SpawnCall where
  args : SpawnArgs
  taskId : Option String
  pc : SpawnPc

inductive Sweep where
  | idle
  | marked
  | sweeping (roots : List String)
  | walked (taskIds roots : List String)
  | done

structure Cancellation (codecs : BackgroundCodecs J) where
  background : Background codecs
  calls : Nat → Option SpawnCall
  sweep : Sweep

namespace Cancellation

def start (codecs : BackgroundCodecs J) : Cancellation codecs :=
  ⟨⟨.new, runStore codecs, []⟩, fun _ => none, .idle⟩

variable (self : Cancellation codecs)

def tasks : Table String (PersistedTaskMeta J) := self.background.tasks

def handles : Table String TaskHandle := self.background.manager.handles

def setCall (c : Nat) (call : Option SpawnCall) : Cancellation codecs :=
  { self with calls := Function.update self.calls c call }

def setManager (manager : BackgroundTaskManager) : Cancellation codecs :=
  { self with background := { self.background with manager := manager } }

def setStore (store : StateStore (backgroundKeys codecs)) : Cancellation codecs :=
  { self with background := { self.background with store := store } }

def launch (record : PersistedTaskMeta J) : Cancellation codecs :=
  { self with background :=
    { self.background with futures := self.background.futures ++ [record] } }

end Cancellation

inductive Event (J : Type) where
  | enter (c : Nat) (args : SpawnArgs)
  | enterAgent (c : Nat) (args : SpawnArgs)
  | name (c : Nat)
  | check (c : Nat)
  | reserve (c : Nat)
  | commit (c : Nat)
  | launch (c : Nat)
  | insert (c : Nat)
  | complete (index : Nat) (result : TaskResult J) (now : Nat)
  | mark
  | roots
  | walk
  | signal
  | finish

/-- One step of one of the calls. A task is spawned by the run or by a task that there is; the lock
on the handles is held from the insertion of a handle to the check that follows it, and while a tree
is signalled. -/
inductive Turn (runId : String) : Cancellation codecs → Event J → Cancellation codecs → Prop
  | enter {s c args} (idle : s.calls c = none)
      (parent : ∀ p, args.context.taskId = some p → (s.tasks.get p).isSome) :
      Turn runId s (.enter c args) ((s.setManager s.background.manager.nextTaskId.2).setCall c
        (some ⟨args, some s.background.manager.nextTaskId.1, .entered⟩))
  | enterAgent {s c args} (idle : s.calls c = none)
      (parent : ∀ p, args.context.taskId = some p → (s.tasks.get p).isSome) :
      Turn runId s (.enterAgent c args)
        (s.setCall c (some ⟨{ args with taskType := "sub_agent" }, none, .entered⟩))
  | named {s c args taskId} (at_ : s.calls c = some ⟨args, taskId, .entered⟩)
      (checked : s.background.checkName args = .ok ()) :
      Turn runId s (.name c) (s.setCall c (some ⟨args, taskId, .named⟩))
  | misnamed {s c args taskId e} (at_ : s.calls c = some ⟨args, taskId, .entered⟩)
      (checked : s.background.checkName args = .error e) :
      Turn runId s (.name c) (s.setCall c none)
  | admitted {s c args taskId} (at_ : s.calls c = some ⟨args, taskId, .named⟩)
      (checked : s.background.checkParentRun args = .ok ()) :
      Turn runId s (.check c) (s.setCall c (some ⟨args, taskId, .admitted⟩))
  | refused {s c args taskId e} (at_ : s.calls c = some ⟨args, taskId, .named⟩)
      (checked : s.background.checkParentRun args = .error e) :
      Turn runId s (.check c) (s.setCall c none)
  | reserve {s c args} (at_ : s.calls c = some ⟨args, none, .admitted⟩) :
      Turn runId s (.reserve c) ((s.setManager s.background.manager.nextTaskId.2).setCall c
        (some ⟨args, some s.background.manager.nextTaskId.1, .admitted⟩))
  | committed {s c args taskId revision store} (at_ : s.calls c = some ⟨args, some taskId, .admitted⟩)
      (commit : commitMeta s.background.store (.upsert (args.record taskId)) = (.ok revision, store)) :
      Turn runId s (.commit c) ((s.setStore store).setCall c (some ⟨args, some taskId, .committed⟩))
  | uncommitted {s c args taskId e store} (at_ : s.calls c = some ⟨args, some taskId, .admitted⟩)
      (commit : commitMeta s.background.store (.upsert (args.record taskId)) = (.error e, store)) :
      Turn runId s (.commit c) ((s.setStore store).setCall c none)
  | launch {s c args taskId} (at_ : s.calls c = some ⟨args, some taskId, .committed⟩) :
      Turn runId s (.launch c)
        ((s.launch (args.record taskId)).setCall c (some ⟨args, some taskId, .launched⟩))
  | insert {s c args taskId} (at_ : s.calls c = some ⟨args, some taskId, .launched⟩) :
      Turn runId s (.insert c)
        ((s.setManager (s.background.manager.insertHandleAndCancelIfParentRunCancelled taskId
          ⟨taskId, args.ownerThreadId, false⟩ args.context)).setCall c none)
  | complete {s} (index result now) : Turn runId s (.complete index result now)
      { s with background := s.background.complete index result now }
  | mark {s} (at_ : s.sweep = .idle) : Turn runId s .mark
      { s.setManager (s.background.manager.markCancelled runId) with sweep := .marked }
  | roots {s} (at_ : s.sweep = .marked) : Turn runId s .roots
      { s with sweep := .sweeping (BackgroundTaskManager.rootTaskIds s.background.store runId) }
  | walked {s root roots taskIds} (at_ : s.sweep = .sweeping (root :: roots))
      (tree : taskTreeIds s.background.store root = some taskIds) :
      Turn runId s .walk { s with sweep := .walked taskIds roots }
  | absent {s root roots} (at_ : s.sweep = .sweeping (root :: roots))
      (tree : taskTreeIds s.background.store root = none) :
      Turn runId s .walk { s with sweep := .sweeping roots }
  | signal {s taskIds roots} (at_ : s.sweep = .walked taskIds roots) :
      Turn runId s .signal { s.setManager
        (s.background.manager.signalTree s.background.store taskIds).2 with sweep := .sweeping roots }
  | finish {s} (at_ : s.sweep = .sweeping []) : Turn runId s .finish { s with sweep := .done }

section Uninterrupted

def Event.Sweeps : Event J → Prop
  | .mark | .roots | .walk | .signal | .finish => True
  | _ => False

variable {runId : String}

lemma exists_sweeping {s : Cancellation codecs} {roots : List String} (count : Nat)
    (hat : s.sweep = .sweeping roots) :
    ∃ tr, Run (Turn runId) s tr { s.setManager (roots.foldl (fun state taskId =>
        let cancelled := state.2.cancelTree s.background.store taskId
        (state.1 + cancelled.1, cancelled.2)) (count, s.background.manager)).2 with sweep := .done } ∧
      ∀ τ ∈ tr, τ.label.Sweeps ∧ τ.pre.background.store = s.background.store := by
  induction roots generalizing s count with
  | nil =>
    refine ⟨_, .single (.finish hat), fun τ hτ => ?_⟩
    rw [List.mem_singleton.mp hτ]
    exact ⟨trivial, rfl⟩
  | cons root roots ih =>
    cases htree : taskTreeIds s.background.store root with
    | none =>
      obtain ⟨tr, hrun, hall⟩ := @ih { s with sweep := .sweeping roots } (count + 0) rfl
      rw [List.foldl_cons, BackgroundTaskManager.cancelTree, htree]
      refine ⟨_, .cons (.absent hat htree) hrun, fun τ hτ => ?_⟩
      rcases List.mem_cons.mp hτ with rfl | hτ
      · exact ⟨trivial, rfl⟩
      · exact hall τ hτ
    | some taskIds =>
      obtain ⟨tr, hrun, hall⟩ := @ih { s.setManager
        (s.background.manager.signalTree s.background.store taskIds).2 with sweep := .sweeping roots }
        (count + (s.background.manager.signalTree s.background.store taskIds).1) rfl
      rw [List.foldl_cons, BackgroundTaskManager.cancelTree, htree]
      refine ⟨_, .cons (.walked hat htree) (.cons (.signal rfl) hrun), fun τ hτ => ?_⟩
      rcases List.mem_cons.mp hτ with rfl | hτ
      · exact ⟨trivial, rfl⟩
      · rcases List.mem_cons.mp hτ with rfl | hτ
        · exact ⟨trivial, rfl⟩
        · exact hall τ hτ

theorem cancelDescendantsForRun_run {s : Cancellation codecs} (hidle : s.sweep = .idle) :
    ∃ tr, Run (Turn runId) s tr { s.setManager (s.background.manager.cancelDescendantsForRun
        s.background.store runId).2 with sweep := .done } ∧
      ∀ τ ∈ tr, τ.label.Sweeps ∧ τ.pre.background.store = s.background.store := by
  obtain ⟨tr, hrun, hall⟩ := @exists_sweeping _ _ runId
    ⟨(s.setManager (s.background.manager.markCancelled runId)).background, s.calls,
      .sweeping (BackgroundTaskManager.rootTaskIds s.background.store runId)⟩ _ 0 rfl
  refine ⟨_, .cons (.mark hidle) (.cons (.roots rfl) hrun), fun τ hτ => ?_⟩
  rcases List.mem_cons.mp hτ with rfl | hτ
  · exact ⟨trivial, rfl⟩
  · rcases List.mem_cons.mp hτ with rfl | hτ
    · exact ⟨trivial, rfl⟩
    · exact hall τ hτ

end Uninterrupted

end Awaken.Background
