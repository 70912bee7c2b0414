import Awaken.Background.MessageLedger
import Awaken.Background.Manager

namespace Awaken.Background

set_option linter.dupNamespace false

open Awaken.Lib Awaken.State

variable {J : Type} {codecs : BackgroundCodecs J}

inductive Op (J : Type) where
  | spawn (args : SpawnArgs)
  | spawnAgent (args : SpawnArgs)
  | complete (index : Nat) (result : TaskResult J) (now : Nat)
  | stepEnd (threadId : String)

namespace Background

def spawned : Except SpawnError String × Background codecs → Option String × Background codecs
  | (.ok taskId, self) => (some taskId, self)
  | (.error _, self) => (none, self)

def step (self : Background codecs) : Op J → Option String × Background codecs
  | .spawn args => spawned (self.spawn args)
  | .spawnAgent args => spawned (self.spawnAgent args)
  | .complete index result now => (none, self.complete index result now)
  | .stepEnd threadId =>
    let result := syncHook .stepEnd threadId self.store.snapshot self
    (none, { result.2 with store := (result.2.store.commit result.1.patch).2 })

def after (self : Background codecs) (ops : List (Op J)) : Background codecs :=
  ops.foldl (fun self op => (self.step op).2) self

def hasRunning (self : Background codecs) (threadId : String) : Bool :=
  self.manager.hasRunning self.store threadId

def pendingWork (self : Background codecs) : Bool :=
  ((self.store.read .pendingWork).getD ⟨false⟩ : PendingWorkState).hasPending

def HasLive (self : Background codecs) (threadId : String) : Prop :=
  ∃ taskId record, self.tasks.get taskId = some record ∧ record.ownerThreadId = threadId ∧
    record.status = .running ∧ (self.manager.handles.get taskId).isSome ∧
    ∃ future ∈ self.futures, future.taskId = taskId

end Background

def runStart (threadId : String) (store : StateStore (backgroundKeys codecs)) : Background codecs :=
  (syncHook .runStart threadId store.snapshot ⟨.new, store, []⟩).2

structure SurvivesRestart (snapshot : BackgroundTaskStateSnapshot J) (start : Background codecs) :
    Prop where
  orphans : ∀ ops taskId record, snapshot.tasks.get taskId = some record →
    record.status = .running → ((start.after ops).tasks.get taskId).map (·.status) = some .failed
  running : ∀ ops threadId, (start.after ops).hasRunning threadId = true →
    (start.after ops).HasLive threadId
  pendingWork : ∀ ops threadId, (start.after (ops ++ [.stepEnd threadId])).pendingWork = true →
    (start.after (ops ++ [.stepEnd threadId])).HasLive threadId
  fresh : ∀ ops op taskId, ((start.after ops).step op).1 = some taskId →
    taskId ∉ snapshot.tasks.keys
  kept : ∀ ops taskId record, snapshot.tasks.get taskId = some record →
    record.status.isTerminal = true → (start.after ops).tasks.get taskId = some record

section Store

/-- The registry of a run's store knows the key of the tasks and that of pending work. -/
structure Registered (store : StateStore (backgroundKeys codecs)) : Prop where
  tasks : (store.registry.keysByName.get "background_task_state").isSome
  pendingWork : (store.registry.keysByName.get "__runtime.pending_work").isSome

lemma commit_update {store : StateStore (backgroundKeys codecs)} {k : BackgroundKey}
    (h : (store.registry.keysByName.get (backgroundKeys codecs k).key).isSome)
    (update : (backgroundKeys codecs k).Update) :
    store.commit (.update .new k update) =
      (.ok (store.inner.revision + 1), store.applied [.keyPatch k update]) := by
  have hvalid : store.validate (.update .new k update) = .ok () := by
    change (store.registry.ensureKey (backgroundKeys codecs k).key >>= fun _ => .ok ()) = .ok ()
    rw [PluginRegistry.ensureKey, if_pos h]
    rfl
  simp only [StateStore.commit, hvalid]
  rfl

lemma read_applied (store : StateStore (backgroundKeys codecs)) (k : BackgroundKey)
    (update : (backgroundKeys codecs k).Update) :
    (store.applied [.keyPatch k update]).read k = some ((backgroundKeys codecs k).apply
      ((store.read k).getD (backgroundKeys codecs k).default) update) :=
  StateMap.update_self _ _ _

lemma read_applied_of_ne (store : StateStore (backgroundKeys codecs)) {j k : BackgroundKey}
    (h : j ≠ k) (update : (backgroundKeys codecs k).Update) :
    (store.applied [.keyPatch k update]).read j = store.read j :=
  StateMap.update_of_ne h _ _

lemma commitMeta_eq {store : StateStore (backgroundKeys codecs)} (h : Registered store)
    (action : BackgroundTaskStateAction J) : commitMeta store action =
      (.ok (store.inner.revision + 1), store.applied [.keyPatch .tasks action]) :=
  commit_update (k := .tasks) h.tasks action

lemma tasksOf_upsert (store : StateStore (backgroundKeys codecs)) (record : PersistedTaskMeta J) :
    tasksOf (store.applied [.keyPatch .tasks (BackgroundTaskStateAction.upsert record)]) =
      (tasksOf store).insert record.taskId record := by
  have hread := read_applied store .tasks (BackgroundTaskStateAction.upsert record)
  rw [tasksOf, hread]
  rfl

end Store

section Restored

variable {store : StateStore (backgroundKeys codecs)} {persisted : PersistedState J}
  {policy : UnknownKeyPolicy} {snapshot : BackgroundTaskStateSnapshot J}

lemma runStore_tasks : (runStore codecs).registry.keysByName.get "background_task_state" =
    some (.new (backgroundKeys codecs) .tasks threadOptions) := by
  with_unfolding_all rfl

lemma runStore_pendingWork : (runStore codecs).registry.keysByName.get "__runtime.pending_work" =
    some (.new (backgroundKeys codecs) .pendingWork ⟨true, false, .run⟩) := by
  with_unfolding_all rfl

lemma restored_registered
    (h : (runStore codecs).restoreThreadScoped persisted policy = (.ok (), store)) :
    Registered store := by
  have hregistry : store.registry = (runStore codecs).registry := by
    have hstore : store = ((runStore codecs).restoreThreadScoped persisted policy).2 := by rw [h]
    rw [hstore, StateStore.restoreThreadScoped]
  exact ⟨by rw [hregistry, runStore_tasks]; rfl, by rw [hregistry, runStore_pendingWork]; rfl⟩

lemma restored_tasks {json : J}
    (h : (runStore codecs).restoreThreadScoped persisted policy = (.ok (), store))
    (hjson : persisted.extensions.get "background_task_state" = some json)
    (hsnapshot : codecs.tasks.decode json = .ok snapshot) : store.read .tasks = some snapshot := by
  unfold StateStore.restoreThreadScoped at h
  cases hi : importEntries (runStore codecs).registry policy (fun scope => decide (scope = .thread))
      persisted.extensions.entries (runStore codecs).inner.ext with
  | mk result ext =>
    rw [hi] at h
    obtain ⟨rfl, rfl⟩ := Prod.mk.inj h
    have htarget : target (runStore codecs).registry (fun scope => decide (scope = .thread))
        "background_task_state" = some (.new (backgroundKeys codecs) .tasks threadOptions) := by
      rw [target, runStore_tasks]
      rfl
    obtain ⟨value, hvalue, hread⟩ := importEntries_read runStore_coherent persisted.extensions.nodup
      hi (Table.get_eq_some.mp hjson) htarget
    have hsame : value = snapshot := Except.ok.inj (hvalue.symm.trans hsnapshot)
    change ext .tasks = some snapshot
    rw [← hsame]
    exact hread

lemma restoreForThread_held (self : Background codecs) (threadId : String)
    (h : ∀ entry ∈ snapshot.tasks.entries, (self.tasks.get entry.1).isSome) :
    self.restoreForThread threadId snapshot = self := by
  rw [Background.restoreForThread]
  generalize self.tasks = existing at h
  generalize snapshot.tasks.entries = entries at h
  induction entries with
  | nil => rfl
  | cons entry entries ih =>
    obtain ⟨hentry, hrest⟩ := List.forall_mem_cons.mp h
    rw [List.foldl_cons, Background.restoreEntry, if_pos hentry]
    exact ih hrest

lemma runStart_eq (threadId : String) (h : store.read .tasks = some snapshot) :
    runStart threadId store = ⟨.new, store, []⟩ := by
  have hget : (store.snapshot.get .tasks).getD (⟨.empty⟩ : BackgroundTaskStateSnapshot J) =
      snapshot := by
    change (store.read .tasks).getD (⟨.empty⟩ : BackgroundTaskStateSnapshot J) = snapshot
    rw [h]
    rfl
  have hheld : ∀ entry ∈ snapshot.tasks.entries,
      ((⟨.new, store, []⟩ : Background codecs).tasks.get entry.1).isSome := by
    intro entry hentry
    have htasks : (⟨.new, store, []⟩ : Background codecs).tasks = snapshot.tasks := by
      rw [Background.tasks, tasksOf, h]
      rfl
    rw [htasks, Table.get_eq_some.mpr hentry]
    rfl
  rw [runStart, syncHook]
  change Background.restoreForThread _ _ ((store.snapshot.get .tasks).getD ⟨.empty⟩) = _
  rw [hget, restoreForThread_held _ _ hheld]

end Restored

section Steps

variable {snapshot : BackgroundTaskStateSnapshot J} {self : Background codecs}

structure Restarted (snapshot : BackgroundTaskStateSnapshot J) (state : Background codecs) : Prop where
  registered : Registered state.store
  present : (state.store.read .tasks).isSome
  counter : state.manager.counter < 2 ^ 64
  futures : ∀ future ∈ state.futures, ∃ n < 2 ^ 64, future.taskId = numbered "bg" n
  restored : ∀ taskId record, snapshot.tasks.get taskId = some record →
    state.tasks.get taskId = some record
  live : ∀ taskId record, state.tasks.get taskId = some record → record.status = .running →
    (state.manager.handles.get taskId).isSome ∧ ∃ future ∈ state.futures, future.taskId = taskId

def Unnumbered (snapshot : BackgroundTaskStateSnapshot J) : Prop :=
  ∀ n < 2 ^ 64, numbered "bg" n ∉ snapshot.tasks.keys

lemma Unnumbered.get (h : Unnumbered snapshot) {n : Nat} (hn : n < 2 ^ 64)
    {taskId : String} {record : PersistedTaskMeta J}
    (hget : snapshot.tasks.get taskId = some record) : taskId ≠ numbered "bg" n := by
  rintro rfl
  have hnone := Table.get_eq_none.mpr (h n hn)
  rw [hget] at hnone
  cases hnone

lemma handles_insert (manager : BackgroundTaskManager) (taskId : String) (handle : TaskHandle)
    (context : TaskParentContext) (id : String) :
    ((manager.insertHandleAndCancelIfParentRunCancelled taskId handle context).handles.get id).isSome =
      (decide (id = taskId) || (manager.handles.get id).isSome) := by
  unfold BackgroundTaskManager.insertHandleAndCancelIfParentRunCancelled
  dsimp only
  split
  · rw [BackgroundTaskManager.signal, Table.get_modify, Table.get_insert]
    by_cases hid : id = taskId <;> simp [hid]
  · rw [Table.get_insert]
    by_cases hid : id = taskId <;> simp [hid]

lemma counter_insert (manager : BackgroundTaskManager) (taskId : String) (handle : TaskHandle)
    (context : TaskParentContext) :
    (manager.insertHandleAndCancelIfParentRunCancelled taskId handle context).counter =
      manager.counter := by
  unfold BackgroundTaskManager.insertHandleAndCancelIfParentRunCancelled
  dsimp only
  split <;> rfl

lemma launch_eq (self : Background codecs) (hregistered : Registered self.store) (taskId : String) (args : SpawnArgs) :
    self.launch taskId args = (.ok taskId,
      ⟨self.manager.insertHandleAndCancelIfParentRunCancelled taskId
          ⟨taskId, args.ownerThreadId, false⟩ args.context,
        self.store.applied [.keyPatch .tasks (BackgroundTaskStateAction.upsert (args.record taskId))],
        self.futures ++ [args.record taskId]⟩) := by
  rw [Background.launch, commitMeta_eq hregistered]

lemma Restarted.launch (h : Restarted snapshot self) (hfresh : Unnumbered snapshot) {n : Nat}
    (hn : n < 2 ^ 64) (args : SpawnArgs) :
    Restarted snapshot (self.launch (numbered "bg" n) args).2 := by
  rw [launch_eq self h.registered]
  refine ⟨⟨h.registered.tasks, h.registered.pendingWork⟩, ?_, ?_, ?_, ?_, ?_⟩
  · rw [read_applied]
    rfl
  · rw [counter_insert]
    exact h.counter
  · intro future hfuture
    rcases List.mem_append.mp hfuture with hold | hnew
    · exact h.futures future hold
    · rw [List.mem_singleton.mp hnew]
      exact ⟨n, hn, rfl⟩
  · intro taskId record hget
    rw [Background.tasks, tasksOf_upsert, Table.get_insert,
      if_neg (show taskId ≠ (args.record (J := J) (numbered "bg" n)).taskId from hfresh.get hn hget)]
    exact h.restored taskId record hget
  · intro taskId record hget hrunning
    rw [Background.tasks, tasksOf_upsert, Table.get_insert] at hget
    rw [handles_insert]
    split at hget
    · rename_i hid
      exact ⟨by rw [decide_eq_true (show taskId = numbered "bg" n from hid)]; rfl,
        ⟨_, List.mem_append_right _ (List.mem_singleton_self _), hid.symm⟩⟩
    · obtain ⟨hhandle, future, hfuture, hid⟩ := h.live taskId record hget hrunning
      exact ⟨by rw [hhandle, Bool.or_true], ⟨future, List.mem_append_left _ hfuture, hid⟩⟩

lemma Restarted.nextTaskId (h : Restarted snapshot self) :
    Restarted snapshot { self with manager := self.manager.nextTaskId.2 } :=
  ⟨h.registered, h.present, Nat.mod_lt _ (by decide), h.futures, h.restored, h.live⟩

lemma Restarted.complete (h : Restarted snapshot self) (hfresh : Unnumbered snapshot) (index : Nat)
    (result : TaskResult J) (now : Nat) : Restarted snapshot (self.complete index result now) := by
  unfold Background.complete
  cases hindex : self.futures[index]? with
  | none => exact h
  | some future =>
    have hmem : future ∈ self.futures := List.mem_of_getElem? hindex
    obtain ⟨n, hn, hname⟩ := h.futures future hmem
    have hid : (future.completed result now).taskId = future.taskId := by
      cases result <;> rfl
    have hended : (future.completed result now).status ≠ .running := by
      cases result <;> exact nofun
    simp only [commitMeta_eq h.registered]
    refine ⟨⟨h.registered.tasks, h.registered.pendingWork⟩, ?_, h.counter, ?_, ?_, ?_⟩
    · rw [read_applied]
      rfl
    · exact fun other hother => h.futures other (List.mem_of_mem_eraseIdx hother)
    · intro taskId record hget
      rw [Background.tasks, tasksOf_upsert, Table.get_insert, hid, hname,
        if_neg (hfresh.get hn hget)]
      exact h.restored taskId record hget
    · intro taskId record hget hrunning
      rw [Background.tasks, tasksOf_upsert, Table.get_insert, hid] at hget
      split at hget
      · rw [← Option.some.inj hget] at hrunning
        exact absurd hrunning hended
      · rename_i hother
        obtain ⟨hhandle, other, hmem', hsame⟩ := h.live taskId record hget hrunning
        refine ⟨hhandle, other, ?_, hsame⟩
        have hne : other ≠ future := fun heq => hother (by rw [← hsame, heq])
        obtain ⟨i, hi⟩ := List.mem_iff_getElem?.mp hmem'
        refine List.mem_eraseIdx_iff_getElem?.mpr ⟨i, fun heq => hne ?_, hi⟩
        rw [heq, hindex] at hi
        exact (Option.some.inj hi).symm

lemma Restarted.stepEnd (h : Restarted snapshot self) (threadId : String) :
    (self.step (.stepEnd threadId)).2 =
        { self with store := self.store.applied [.keyPatch .pendingWork (self.hasRunning threadId)] } ∧
      Restarted snapshot (self.step (.stepEnd threadId)).2 := by
  have heq : (self.step (.stepEnd threadId)).2 =
      { self with store := self.store.applied [.keyPatch .pendingWork (self.hasRunning threadId)] } := by
    have hcommit := commit_update (k := .pendingWork) h.registered.pendingWork
      (self.hasRunning threadId)
    change { self with store := (self.store.commit
      (.update .new .pendingWork (self.hasRunning threadId))).2 } = _
    rw [hcommit]
  have hread := read_applied_of_ne self.store (show BackgroundKey.tasks ≠ .pendingWork by decide)
    (self.hasRunning threadId)
  refine ⟨heq, heq ▸ ⟨⟨h.registered.tasks, h.registered.pendingWork⟩, ?_, h.counter, h.futures, ?_, ?_⟩⟩
  · rw [hread]
    exact h.present
  · intro taskId record hget
    rw [Background.tasks, tasksOf, hread]
    exact h.restored taskId record hget
  · intro taskId record hget
    rw [Background.tasks, tasksOf, hread] at hget
    exact h.live taskId record hget

lemma spawned_snd (result : Except SpawnError String × Background codecs) :
    (Background.spawned result).2 = result.2 := by
  obtain ⟨answer, state⟩ := result
  cases answer <;> rfl

lemma spawned_some {result : Except SpawnError String × Background codecs} {taskId : String}
    (h : (Background.spawned result).1 = some taskId) : result.1 = .ok taskId := by
  obtain ⟨answer, state⟩ := result
  cases answer with
  | error e => cases h
  | ok id => rw [Option.some.inj h]

lemma Restarted.spawn (h : Restarted snapshot self) (hfresh : Unnumbered snapshot)
    (args : SpawnArgs) : Restarted snapshot (self.spawn args).2 ∧
      ∀ taskId, (self.spawn args).1 = .ok taskId → ∃ n < 2 ^ 64, taskId = numbered "bg" n := by
  unfold Background.spawn
  dsimp only
  split
  · exact ⟨h.nextTaskId, nofun⟩
  · refine ⟨h.nextTaskId.launch hfresh h.counter args, fun taskId hok => ⟨_, h.counter, ?_⟩⟩
    have hlaunch := launch_eq _ h.nextTaskId.registered (numbered "bg" self.manager.counter) args
    change (Background.launch _ (numbered "bg" self.manager.counter) args).1 = _ at hok
    rw [hlaunch] at hok
    exact (Except.ok.inj hok).symm

lemma Restarted.spawnAgent (h : Restarted snapshot self) (hfresh : Unnumbered snapshot)
    (args : SpawnArgs) : Restarted snapshot (self.spawnAgent args).2 ∧
      ∀ taskId, (self.spawnAgent args).1 = .ok taskId → ∃ n < 2 ^ 64, taskId = numbered "bg" n := by
  unfold Background.spawnAgent
  split
  · exact ⟨h, nofun⟩
  · refine ⟨h.nextTaskId.launch hfresh h.counter _, fun taskId hok => ⟨_, h.counter, ?_⟩⟩
    have hlaunch := launch_eq _ h.nextTaskId.registered (numbered "bg" self.manager.counter)
      { args with taskType := "sub_agent" }
    change (Background.launch _ (numbered "bg" self.manager.counter) _).1 = _ at hok
    rw [hlaunch] at hok
    exact (Except.ok.inj hok).symm

lemma Restarted.step (h : Restarted snapshot self) (hfresh : Unnumbered snapshot) (op : Op J) :
    Restarted snapshot (self.step op).2 ∧
      ∀ taskId, (self.step op).1 = some taskId → ∃ n < 2 ^ 64, taskId = numbered "bg" n := by
  cases op with
  | spawn args =>
    refine ⟨?_, fun taskId hid => (h.spawn hfresh args).2 taskId (spawned_some hid)⟩
    rw [Background.step, spawned_snd]
    exact (h.spawn hfresh args).1
  | spawnAgent args =>
    refine ⟨?_, fun taskId hid => (h.spawnAgent hfresh args).2 taskId (spawned_some hid)⟩
    rw [Background.step, spawned_snd]
    exact (h.spawnAgent hfresh args).1
  | complete index result now => exact ⟨h.complete hfresh index result now, nofun⟩
  | stepEnd threadId => exact ⟨(h.stepEnd threadId).2, nofun⟩

lemma Restarted.after (h : Restarted snapshot self) (hfresh : Unnumbered snapshot)
    (ops : List (Op J)) : Restarted snapshot (self.after ops) := by
  induction ops generalizing self with
  | nil => exact h
  | cons op ops ih => exact ih (h.step hfresh op).1

lemma Restarted.hasLive (h : Restarted snapshot self) {threadId : String}
    (hrunning : self.hasRunning threadId = true) : self.HasLive threadId := by
  unfold Background.hasRunning BackgroundTaskManager.hasRunning at hrunning
  have hpresent := h.present
  cases hread : self.store.read .tasks with
  | none => rw [hread] at hpresent; cases hpresent
  | some tasks =>
    simp only [hread] at hrunning
    obtain ⟨taskId, record, hget, hp⟩ := Table.any_values.mp hrunning
    simp only [Bool.and_eq_true, decide_eq_true_eq, Bool.not_eq_true'] at hp
    have hstatus : record.status = .running := by
      simpa [TaskStatus.isTerminal] using hp.2
    have htasks : self.tasks.get taskId = some record := by
      rw [Background.tasks, tasksOf, hread]
      exact hget
    obtain ⟨hhandle, hfuture⟩ := h.live taskId record htasks hstatus
    exact ⟨taskId, record, htasks, hp.1, hstatus, hhandle, hfuture⟩

lemma Restarted.pendingWork (h : Restarted snapshot self) {threadId : String}
    (hpending : (self.step (.stepEnd threadId)).2.pendingWork = true) :
    (self.step (.stepEnd threadId)).2.HasLive threadId := by
  obtain ⟨heq, hafter⟩ := h.stepEnd threadId
  refine hafter.hasLive ?_
  rw [heq] at hpending ⊢
  have hvalue : self.hasRunning threadId = true := by
    rw [Background.pendingWork, read_applied] at hpending
    exact hpending
  have hread := read_applied_of_ne self.store (show BackgroundKey.tasks ≠ .pendingWork by decide)
    (self.hasRunning threadId)
  rw [← hvalue, Background.hasRunning, BackgroundTaskManager.hasRunning, hread]
  rfl

def plainSpawn : SpawnArgs := ⟨"thread", "shell", none, "", ⟨none, none, none, none⟩, ⟨none, none⟩, 0⟩

lemma plainSpawn_step (h : Registered self.store) :
    (self.step (.spawn plainSpawn)).1 = some (numbered "bg" self.manager.counter) ∧
      (self.step (.spawn plainSpawn)).2.manager.counter = (self.manager.counter + 1) % 2 ^ 64 ∧
      Registered (self.step (.spawn plainSpawn)).2.store := by
  have hspawn : self.spawn plainSpawn = Background.launch
      { self with manager := self.manager.nextTaskId.2 } (numbered "bg" self.manager.counter)
      plainSpawn := rfl
  have hlaunch := launch_eq { self with manager := self.manager.nextTaskId.2 } h
    (numbered "bg" self.manager.counter) plainSpawn
  rw [Background.step, hspawn, hlaunch]
  refine ⟨rfl, ?_, ⟨h.tasks, h.pendingWork⟩⟩
  change (BackgroundTaskManager.insertHandleAndCancelIfParentRunCancelled _ _ _ _).counter = _
  rw [counter_insert]
  rfl

lemma plainSpawns_counter (self : Background codecs) (h : Registered self.store) (hzero : self.manager.counter = 0) {n : Nat}
    (hn : n < 2 ^ 64) :
    (self.after (List.replicate n (.spawn plainSpawn))).manager.counter = n ∧
      Registered (self.after (List.replicate n (.spawn plainSpawn))).store := by
  induction n with
  | zero => exact ⟨hzero, h⟩
  | succ n ih =>
    obtain ⟨hcounter, hregistered⟩ := ih (by omega)
    obtain ⟨-, hnext, hkept⟩ := plainSpawn_step hregistered
    rw [List.replicate_succ', Background.after, List.foldl_append]
    refine ⟨?_, hkept⟩
    change ((self.after _).step _).2.manager.counter = _
    rw [hnext, hcounter, Nat.mod_eq_of_lt hn]

end Steps

/-- The tasks of a thread survive a restart exactly when none of them was running and none has an
id that the new manager gives: the hook is handed the tasks that the store holds already, and
passes over each of them. -/
theorem restart_survives_iff (threadId : String) {store : StateStore (backgroundKeys codecs)}
    {persisted : PersistedState J} {policy : UnknownKeyPolicy} {json : J}
    {snapshot : BackgroundTaskStateSnapshot J}
    (hrestored : (runStore codecs).restoreThreadScoped persisted policy = (.ok (), store))
    (hjson : persisted.extensions.get "background_task_state" = some json)
    (hsnapshot : codecs.tasks.decode json = .ok snapshot) :
    SurvivesRestart snapshot (runStart threadId store) ↔
      (∀ taskId record, snapshot.tasks.get taskId = some record → record.status ≠ .running) ∧
        ∀ n < 2 ^ 64, numbered "bg" n ∉ snapshot.tasks.keys := by
  have hread := restored_tasks hrestored hjson hsnapshot
  have hregistered := restored_registered hrestored
  have htasks : (⟨.new, store, []⟩ : Background codecs).tasks = snapshot.tasks := by
    rw [Background.tasks, tasksOf, hread]
    rfl
  rw [runStart_eq threadId hread]
  constructor
  · intro h
    refine ⟨fun taskId record hget hrunning => ?_, fun n hn hmem => ?_⟩
    · have hfailed := h.orphans [] taskId record hget hrunning
      change ((⟨.new, store, []⟩ : Background codecs).tasks.get taskId).map _ = _ at hfailed
      rw [htasks, hget, Option.map_some, hrunning] at hfailed
      cases hfailed
    · obtain ⟨hcounter, hspawned⟩ := plainSpawns_counter ⟨.new, store, []⟩
        hregistered rfl hn
      have hid := (plainSpawn_step hspawned).1
      rw [hcounter] at hid
      exact h.fresh _ _ _ hid hmem
  · rintro ⟨hrunning, hfresh⟩
    have hstart : Restarted snapshot (⟨.new, store, []⟩ : Background codecs) := by
      refine ⟨hregistered, by rw [hread]; rfl, Nat.two_pow_pos 64, by simp, fun taskId record hget => ?_,
        fun taskId record hget hstatus => ?_⟩
      · rw [htasks]
        exact hget
      · rw [htasks] at hget
        exact absurd hstatus (hrunning taskId record hget)
    refine ⟨fun ops taskId record hget hstatus => absurd hstatus (hrunning taskId record hget),
      fun ops threadId h => (hstart.after hfresh ops).hasLive h, fun ops threadId h => ?_,
      fun ops op taskId hid hmem => ?_,
      fun ops taskId record hget _ => (hstart.after hfresh ops).restored taskId record hget⟩
    · rw [Background.after, List.foldl_append] at h ⊢
      exact (hstart.after hfresh ops).pendingWork h
    · obtain ⟨n, hn, rfl⟩ := ((hstart.after hfresh ops).step hfresh op).2 taskId hid
      exact hfresh n hn hmem

section Orphan

def orphaned : BackgroundTaskStateSnapshot Unit :=
  ⟨Table.empty.insert "bg_0" ⟨"bg_0", "t1", "shell", none, "build", .running, none, none, 0, none,
    ⟨none, some "r1", none, none⟩⟩⟩

def orphanCodecs : BackgroundCodecs Unit where
  tasks := ⟨fun _ => .ok (), fun _ => .ok orphaned⟩
  messageOutbox := ⟨fun _ => .ok (), fun _ => .ok ⟨[]⟩⟩
  failedDurableMessages := ⟨fun _ => .ok (), fun _ => .ok ⟨[]⟩⟩
  pendingWork := ⟨fun _ => .ok (), fun _ => .ok ⟨false⟩⟩

def orphanState : PersistedState Unit := ⟨1, Table.empty.insert "background_task_state" ()⟩

def orphanStore : StateStore (backgroundKeys orphanCodecs) :=
  ((runStore orphanCodecs).restoreThreadScoped orphanState .skip).2

lemma orphan_restored :
    (runStore orphanCodecs).restoreThreadScoped orphanState .skip = (.ok (), orphanStore) :=
  Prod.ext (by with_unfolding_all rfl) rfl

theorem restart_survives_iff_orphan :
    SurvivesRestart orphaned (runStart "t1" orphanStore) ↔
      (∀ taskId record, orphaned.tasks.get taskId = some record → record.status ≠ .running) ∧
        ∀ n < 2 ^ 64, numbered "bg" n ∉ orphaned.tasks.keys :=
  restart_survives_iff "t1" orphan_restored rfl rfl

theorem orphan_keeps_running : ¬ SurvivesRestart orphaned (runStart "t1" orphanStore) := by
  intro h
  have hread : orphanStore.read .tasks = some orphaned := restored_tasks orphan_restored rfl rfl
  have hfailed := h.orphans [] "bg_0" _ rfl rfl
  rw [runStart_eq "t1" hread] at hfailed
  change ((tasksOf orphanStore).get "bg_0").map _ = _ at hfailed
  rw [tasksOf, hread] at hfailed
  cases hfailed

end Orphan

end Awaken.Background
