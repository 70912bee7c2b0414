import Awaken.Background.Lineage

namespace Awaken.Background

open Awaken.Lib Awaken.State

variable {J : Type} {codecs : BackgroundCodecs J}

section Signals

variable {store : StateStore (backgroundKeys codecs)}

def liveIn (store : StateStore (backgroundKeys codecs)) (taskId : String) : Bool :=
  ((tasksOf store).get taskId).all (fun record => !record.status.isTerminal)

def TaskHandle.cancel (self : TaskHandle) : TaskHandle := { self with cancelled := true }

lemma get_signalLive (store : StateStore (backgroundKeys codecs))
    (state : Nat × BackgroundTaskManager) (taskId id : String) :
    (BackgroundTaskManager.signalLive store state taskId).2.handles.get id =
        (state.2.handles.get id).map (fun handle =>
          if id = taskId ∧ liveIn store id then handle.cancel else handle) ∧
      (BackgroundTaskManager.signalLive store state taskId).2.counter = state.2.counter ∧
      (BackgroundTaskManager.signalLive store state taskId).2.cancelledRunIds =
        state.2.cancelledRunIds := by
  unfold BackgroundTaskManager.signalLive
  split
  · rename_i h
    refine ⟨?_, rfl, rfl⟩
    change (state.2.handles.modify taskId TaskHandle.cancel).get id = _
    rw [Table.get_modify]
    by_cases hid : id = taskId
    · subst hid
      have hlive : liveIn store id = true := h.2
      simp [hlive]
    · simp [hid]
  · rename_i h
    refine ⟨?_, rfl, rfl⟩
    by_cases hid : id = taskId ∧ liveIn store id
    · obtain ⟨rfl, hlive⟩ := hid
      have hnone : state.2.handles.get id = none := by
        cases hget : state.2.handles.get id with
        | none => rfl
        | some handle => exact absurd ⟨by rw [hget]; rfl, hlive⟩ h
      rw [hnone]
      rfl
    · simp only [hid, if_false, Option.map_id']

lemma get_signalTree (store : StateStore (backgroundKeys codecs))
    (manager : BackgroundTaskManager) (taskIds : List String) (id : String) :
    (manager.signalTree store taskIds).2.handles.get id =
        (manager.handles.get id).map (fun handle =>
          if id ∈ taskIds ∧ liveIn store id then handle.cancel else handle) ∧
      (manager.signalTree store taskIds).2.counter = manager.counter ∧
      (manager.signalTree store taskIds).2.cancelledRunIds = manager.cancelledRunIds := by
  rw [BackgroundTaskManager.signalTree]
  generalize hstate : ((0, manager) : Nat × BackgroundTaskManager) = state
  have hmanager : manager = state.2 := by rw [← hstate]
  subst hmanager
  clear hstate
  induction taskIds generalizing state with
  | nil => simp
  | cons taskId taskIds ih =>
    obtain ⟨hget, hcounter, hruns⟩ := get_signalLive store state taskId id
    obtain ⟨hgets, hcounters, hrunss⟩ := ih (BackgroundTaskManager.signalLive store state taskId)
    rw [List.foldl_cons]
    refine ⟨?_, hcounters.trans hcounter, hrunss.trans hruns⟩
    rw [hgets, hget, Option.map_map]
    refine congrArg (fun f => (state.2.handles.get id).map f) ?_
    funext handle
    simp only [Function.comp_apply, List.mem_cons]
    grind [TaskHandle.cancel]

end Signals

section Tables

def Given (counter : Nat) (taskId : String) : Prop := ∃ n < counter, taskId = numbered "bg" n

def SpawnPc.hasRecord (pc : SpawnPc) : Prop := pc = .committed ∨ pc = .launched

structure CallHeld (tasks : Table String (PersistedTaskMeta J)) (handles : Table String TaskHandle)
    (counter : Nat) (call : SpawnCall) : Prop where
  parent : ∀ p, call.args.context.taskId = some p → (tasks.get p).isSome
  given : ∀ id, call.taskId = some id → Given counter id ∧ handles.get id = none
  record : ∀ id, call.taskId = some id → call.pc.hasRecord →
    ∃ record, tasks.get id = some record ∧ record.parentContext = call.args.context
  fresh : ∀ id, call.taskId = some id → ¬ call.pc.hasRecord → tasks.get id = none

structure Held (s : Cancellation codecs) : Prop where
  registered : Registered s.background.store
  keyed : Keyed s.tasks
  closed : Closed s.tasks
  given : ∀ id, (s.tasks.get id).isSome → Given s.background.manager.counter id
  handled : ∀ id, (s.handles.get id).isSome → (s.tasks.get id).isSome
  calls : ∀ c call, s.calls c = some call →
    CallHeld s.tasks s.handles s.background.manager.counter call
  apart : ∀ c c' call call' id, s.calls c = some call → s.calls c' = some call' →
    call.taskId = some id → call'.taskId = some id → c = c'
  returned : ∀ id, (s.tasks.get id).isSome → (s.handles.get id).isSome ∨
    ∃ c call, s.calls c = some call ∧ call.taskId = some id
  futures : ∀ future ∈ s.background.futures, ∃ record, s.tasks.get future.taskId = some record ∧
    record.parentContext = future.parentContext

lemma start_held : Held (Cancellation.start codecs) := by
  have hnone : ∀ id, (Cancellation.start codecs).tasks.get id = none := fun _ => rfl
  refine ⟨⟨by rw [Cancellation.start, runStore_tasks]; rfl,
      by rw [Cancellation.start, runStore_pendingWork]; rfl⟩, fun id record hget => ?_,
    fun id p hp => ?_, fun id hid => ?_, fun id hid => ?_, fun c call hcall => ?_,
    fun c c' call call' id hcall => ?_, fun id hid => ?_, fun future hfuture => ?_⟩
  · cases hget
  · cases hp
  · cases hid
  · cases hid
  · cases hcall
  · cases hcall
  · cases hid
  · cases hfuture

lemma Given.mono {counter counter' : Nat} {id : String} (h : Given counter id)
    (hle : counter ≤ counter') : Given counter' id := by
  obtain ⟨n, hn, rfl⟩ := h
  exact ⟨n, by omega, rfl⟩

lemma Given.ne_next {counter : Nat} {id : String} (h : Given counter id) :
    id ≠ numbered "bg" counter := by
  obtain ⟨n, hn, rfl⟩ := h
  intro heq
  have := numbered_inj heq
  omega

variable {s : Cancellation codecs} {runId : String}

lemma Cancellation.calls_setCall_self (s : Cancellation codecs) (c : Nat)
    (call : Option SpawnCall) : (s.setCall c call).calls c = call := Function.update_self _ _ _

lemma Cancellation.calls_setCall_of_ne {c c' : Nat} (h : c' ≠ c) (s : Cancellation codecs)
    (call : Option SpawnCall) : (s.setCall c call).calls c' = s.calls c' :=
  Function.update_of_ne h _ _

lemma Held.setCall_some (h : Held s) {c : Nat} {old new : SpawnCall} (hat : s.calls c = some old)
    (hid : new.taskId = old.taskId)
    (hnew : CallHeld s.tasks s.handles s.background.manager.counter new) :
    Held (s.setCall c (some new)) := by
  have hcall : ∀ {c' call}, (s.setCall c (some new)).calls c' = some call →
      (c' = c ∧ call = new) ∨ (c' ≠ c ∧ s.calls c' = some call) := by
    intro c' call hc'
    by_cases hcc : c' = c
    · subst hcc
      rw [Cancellation.calls_setCall_self] at hc'
      exact .inl ⟨rfl, (Option.some.inj hc').symm⟩
    · rw [Cancellation.calls_setCall_of_ne hcc] at hc'
      exact .inr ⟨hcc, hc'⟩
  refine ⟨h.registered, h.keyed, h.closed, h.given, h.handled, fun c' call hc' => ?_,
    fun c₁ c₂ call₁ call₂ id h₁ h₂ hid₁ hid₂ => ?_, fun id hid' => ?_, h.futures⟩
  · rcases hcall hc' with ⟨-, rfl⟩ | ⟨-, hold⟩
    · exact hnew
    · exact h.calls c' call hold
  · rcases hcall h₁ with ⟨rfl, rfl⟩ | ⟨hne₁, hold₁⟩ <;> rcases hcall h₂ with ⟨rfl, rfl⟩ | ⟨hne₂, hold₂⟩
    · rfl
    · exact h.apart _ _ old call₂ id hat hold₂ (hid ▸ hid₁) hid₂
    · exact h.apart _ _ call₁ old id hold₁ hat hid₁ (hid ▸ hid₂)
    · exact h.apart _ _ call₁ call₂ id hold₁ hold₂ hid₁ hid₂
  · rcases h.returned id hid' with hhandle | ⟨c', call, hc', hcid⟩
    · exact .inl hhandle
    · by_cases hcc : c' = c
      · subst hcc
        obtain rfl := Option.some.inj (hat.symm.trans hc')
        exact .inr ⟨c', new, by rw [Cancellation.calls_setCall_self], hid.trans hcid⟩
      · exact .inr ⟨c', call, by rw [Cancellation.calls_setCall_of_ne hcc]; exact hc', hcid⟩

lemma Held.setCall_none (h : Held s) {c : Nat} {old : SpawnCall} (hat : s.calls c = some old)
    (hrecord : ∀ id, old.taskId = some id → s.tasks.get id = none ∨ (s.handles.get id).isSome) :
    Held (s.setCall c none) := by
  have hcall : ∀ {c' call}, (s.setCall c none).calls c' = some call → s.calls c' = some call := by
    intro c' call hc'
    by_cases hcc : c' = c
    · subst hcc
      rw [Cancellation.calls_setCall_self] at hc'
      cases hc'
    · rw [Cancellation.calls_setCall_of_ne hcc] at hc'
      exact hc'
  refine ⟨h.registered, h.keyed, h.closed, h.given, h.handled, fun c' call hc' =>
    h.calls c' call (hcall hc'), fun c₁ c₂ call₁ call₂ id h₁ h₂ =>
    h.apart c₁ c₂ call₁ call₂ id (hcall h₁) (hcall h₂), fun id hid => ?_, h.futures⟩
  rcases h.returned id hid with hhandle | ⟨c', call, hc', hcid⟩
  · exact .inl hhandle
  · by_cases hcc : c' = c
    · subst hcc
      obtain rfl := Option.some.inj (hat.symm.trans hc')
      rcases hrecord id hcid with hnone | hhandle
      · change (s.tasks.get id).isSome = true at hid
        rw [hnone] at hid
        cases hid
      · exact .inl hhandle
    · exact .inr ⟨c', call, by rw [Cancellation.calls_setCall_of_ne hcc]; exact hc', hcid⟩

lemma CallHeld.mono {tasks : Table String (PersistedTaskMeta J)} {handles : Table String TaskHandle}
    {counter counter' : Nat} {call : SpawnCall} (h : CallHeld tasks handles counter call)
    (hle : counter ≤ counter') : CallHeld tasks handles counter' call :=
  ⟨h.parent, fun id hid => ⟨((h.given id hid).1).mono hle, (h.given id hid).2⟩, h.record, h.fresh⟩

lemma Held.next_fresh (h : Held s) :
    s.tasks.get (numbered "bg" s.background.manager.counter) = none ∧
      s.handles.get (numbered "bg" s.background.manager.counter) = none := by
  have htask : s.tasks.get (numbered "bg" s.background.manager.counter) = none := by
    refine Option.not_isSome_iff_eq_none.mp (fun hsome => ?_)
    exact (h.given _ hsome).ne_next rfl
  refine ⟨htask, Option.not_isSome_iff_eq_none.mp (fun hsome => ?_)⟩
  have hsome := h.handled _ hsome
  rw [htask] at hsome
  cases hsome

lemma nextTaskId_counter (manager : BackgroundTaskManager) (h : manager.counter + 1 < 2 ^ 64) :
    manager.nextTaskId.2.counter = manager.counter + 1 := Nat.mod_eq_of_lt h

lemma Held.reserve (h : Held s) (hwrap : s.background.manager.counter + 1 < 2 ^ 64) {c : Nat}
    (hold : ∀ old, s.calls c = some old → old.taskId = none) {args : SpawnArgs} {pc : SpawnPc}
    (hpc : ¬ pc.hasRecord) (hparent : ∀ p, args.context.taskId = some p → (s.tasks.get p).isSome) :
    Held ((s.setManager s.background.manager.nextTaskId.2).setCall c
      (some ⟨args, some s.background.manager.nextTaskId.1, pc⟩)) := by
  obtain ⟨htask, hhandle⟩ := h.next_fresh
  have hcounter := nextTaskId_counter s.background.manager hwrap
  have hle : s.background.manager.counter ≤ s.background.manager.nextTaskId.2.counter := by omega
  have hother : ∀ {c' call}, c' ≠ c → s.calls c' = some call →
      call.taskId ≠ some (numbered "bg" s.background.manager.counter) := by
    intro c' call _ hc' hid
    exact (((h.calls c' call hc').given _ hid).1).ne_next rfl
  have hcall : ∀ {c' call}, ((s.setManager s.background.manager.nextTaskId.2).setCall c
      (some ⟨args, some s.background.manager.nextTaskId.1, pc⟩)).calls c' = some call →
      (c' = c ∧ call = ⟨args, some (numbered "bg" s.background.manager.counter), pc⟩) ∨
        (c' ≠ c ∧ s.calls c' = some call) := by
    intro c' call hc'
    by_cases hcc : c' = c
    · subst hcc
      rw [Cancellation.calls_setCall_self] at hc'
      exact .inl ⟨rfl, (Option.some.inj hc').symm⟩
    · rw [Cancellation.calls_setCall_of_ne hcc] at hc'
      exact .inr ⟨hcc, hc'⟩
  refine ⟨h.registered, h.keyed, h.closed, fun id hid => (h.given id hid).mono hle, h.handled,
    fun c' call hc' => ?_, fun c₁ c₂ call₁ call₂ id h₁ h₂ hid₁ hid₂ => ?_, fun id hid => ?_, h.futures⟩
  · rcases hcall hc' with ⟨-, rfl⟩ | ⟨-, hc'⟩
    · refine ⟨hparent, fun id hid => ?_, fun id _ hrecord => absurd hrecord hpc, fun id hid _ => ?_⟩
      · rw [← Option.some.inj hid]
        refine ⟨⟨s.background.manager.counter, ?_, rfl⟩, hhandle⟩
        change s.background.manager.counter < s.background.manager.nextTaskId.2.counter
        omega
      · rw [← Option.some.inj hid]
        exact htask
    · exact (h.calls c' call hc').mono hle
  · rcases hcall h₁ with ⟨rfl, rfl⟩ | ⟨hne₁, hold₁⟩ <;> rcases hcall h₂ with ⟨rfl, rfl⟩ | ⟨hne₂, hold₂⟩
    · rfl
    · exact absurd (hid₂.trans hid₁.symm) (hother hne₂ hold₂)
    · exact absurd (hid₁.trans hid₂.symm) (hother hne₁ hold₁)
    · exact h.apart _ _ call₁ call₂ id hold₁ hold₂ hid₁ hid₂
  · rcases h.returned id hid with hdone | ⟨c', call, hc', hcid⟩
    · exact .inl hdone
    · have hcc : c' ≠ c := fun heq => by
        rw [hold call (heq ▸ hc')] at hcid
        cases hcid
      exact .inr ⟨c', call, by rw [Cancellation.calls_setCall_of_ne hcc]; exact hc', hcid⟩

lemma Held.enter (h : Held s) {c : Nat} (hidle : s.calls c = none) {args : SpawnArgs} {pc : SpawnPc}
    (hparent : ∀ p, args.context.taskId = some p → (s.tasks.get p).isSome) :
    Held (s.setCall c (some ⟨args, none, pc⟩)) := by
  have hcall : ∀ {c' call}, (s.setCall c (some ⟨args, none, pc⟩)).calls c' = some call →
      call = ⟨args, none, pc⟩ ∨ s.calls c' = some call := by
    intro c' call hc'
    by_cases hcc : c' = c
    · subst hcc
      rw [Cancellation.calls_setCall_self] at hc'
      exact .inl (Option.some.inj hc').symm
    · rw [Cancellation.calls_setCall_of_ne hcc] at hc'
      exact .inr hc'
  refine ⟨h.registered, h.keyed, h.closed, h.given, h.handled, fun c' call hc' => ?_,
    fun c₁ c₂ call₁ call₂ id h₁ h₂ hid₁ hid₂ => ?_, fun id hid => ?_, h.futures⟩
  · rcases hcall hc' with rfl | hc'
    · exact ⟨hparent, nofun, nofun, nofun⟩
    · exact h.calls c' call hc'
  · rcases hcall h₁ with rfl | hold₁
    · cases hid₁
    · rcases hcall h₂ with rfl | hold₂
      · cases hid₂
      · exact h.apart _ _ call₁ call₂ id hold₁ hold₂ hid₁ hid₂
  · rcases h.returned id hid with hdone | ⟨c', call, hc', hcid⟩
    · exact .inl hdone
    · have hcc : c' ≠ c := fun heq => by
        rw [heq, hidle] at hc'
        cases hc'
      exact .inr ⟨c', call, by rw [Cancellation.calls_setCall_of_ne hcc]; exact hc', hcid⟩

lemma Held.setManager (h : Held s) {manager : BackgroundTaskManager}
    (hcounter : manager.counter = s.background.manager.counter)
    (hhandles : ∀ id, (manager.handles.get id).isSome = (s.handles.get id).isSome) :
    Held (s.setManager manager) := by
  have hnone : ∀ id, s.handles.get id = none → manager.handles.get id = none := by
    intro id hid
    refine Option.not_isSome_iff_eq_none.mp ?_
    rw [hhandles, hid]
    exact nofun
  refine ⟨h.registered, h.keyed, h.closed, fun id hid => ?_, fun id hid => ?_, fun c call hc => ?_,
    h.apart, fun id hid => ?_, h.futures⟩
  · change Given manager.counter id
    rw [hcounter]
    exact h.given id hid
  · exact h.handled id ((hhandles id) ▸ hid)
  · have hheld := h.calls c call hc
    refine ⟨hheld.parent, fun id hid => ⟨?_, hnone id (hheld.given id hid).2⟩, hheld.record,
      hheld.fresh⟩
    change Given manager.counter id
    rw [hcounter]
    exact (hheld.given id hid).1
  · refine (h.returned id hid).imp_left (fun hsome => ?_)
    change (manager.handles.get id).isSome
    rw [hhandles]
    exact hsome

lemma Held.setSweep (h : Held s) (sweep : Sweep) : Held { s with sweep := sweep } :=
  ⟨h.registered, h.keyed, h.closed, h.given, h.handled, h.calls, h.apart, h.returned, h.futures⟩

lemma isSome_insert {tasks : Table String (PersistedTaskMeta J)} {id other : String}
    {record : PersistedTaskMeta J} :
    ((tasks.insert id record).get other).isSome = (decide (other = id) || (tasks.get other).isSome) := by
  rw [Table.get_insert]
  by_cases h : other = id <;> simp [h]

lemma closed_insert {tasks : Table String (PersistedTaskMeta J)} (hclosed : Closed tasks) {id : String}
    {record : PersistedTaskMeta J}
    (hparent : ∀ p, record.parentContext.taskId = some p → (tasks.get p).isSome) :
    Closed (tasks.insert id record) := by
  intro other p hp
  rw [isSome_insert, Bool.or_eq_true]
  refine .inr ?_
  rw [parentOf_insert] at hp
  split at hp
  · exact hparent p hp
  · exact hclosed other p hp

lemma keyed_insert {tasks : Table String (PersistedTaskMeta J)} (hkeyed : Keyed tasks)
    (record : PersistedTaskMeta J) : Keyed (tasks.insert record.taskId record) := by
  intro id other hget
  rw [Table.get_insert] at hget
  split at hget
  · rename_i hid
    rw [← Option.some.inj hget, hid]
  · exact hkeyed id other hget

lemma tasks_upsert (s : Cancellation codecs) (record : PersistedTaskMeta J) :
    (s.setStore (s.background.store.applied
      [.keyPatch .tasks (BackgroundTaskStateAction.upsert record)])).tasks =
      s.tasks.insert record.taskId record := tasksOf_upsert _ _

lemma Held.commit (h : Held s) {c : Nat} {args : SpawnArgs} {id : String}
    (hat : s.calls c = some ⟨args, some id, .admitted⟩) :
    Held ((s.setStore (s.background.store.applied
      [.keyPatch .tasks (BackgroundTaskStateAction.upsert (args.record id))])).setCall c
        (some ⟨args, some id, .committed⟩)) := by
  have hheld := h.calls c _ hat
  have hfresh : s.tasks.get id = none := hheld.fresh id rfl (by rintro (h | h) <;> cases h)
  generalize hs : s.setStore (s.background.store.applied
    [.keyPatch .tasks (BackgroundTaskStateAction.upsert (args.record id))]) = s'
  have htasks : s'.tasks = s.tasks.insert id (args.record id) := hs ▸ tasks_upsert s _
  have hcalls : s'.calls = s.calls := hs ▸ rfl
  have hmanager : s'.background.manager = s.background.manager := hs ▸ rfl
  have hhandles : s'.handles = s.handles := hs ▸ rfl
  have hold : ∀ other, other ≠ id → s'.tasks.get other = s.tasks.get other := fun other hne => by
    rw [htasks, Table.get_insert, if_neg hne]
  have hself : s'.tasks.get id = some (args.record id) := by rw [htasks, Table.get_insert, if_pos rfl]
  have hmono : ∀ other, (s.tasks.get other).isSome → (s'.tasks.get other).isSome := fun other hsome => by
    rw [htasks, isSome_insert, hsome, Bool.or_true]
  -- the call is followed by its own record, and the others are left with what they had
  have hnew : CallHeld s'.tasks s'.handles s'.background.manager.counter
      ⟨args, some id, .committed⟩ := by
    rw [hhandles, hmanager]
    refine ⟨fun p hp => hmono p (hheld.parent p hp), hheld.given, fun other hother _ => ?_,
      fun other _ hrecord => absurd (.inl rfl) hrecord⟩
    rw [← Option.some.inj hother]
    exact ⟨_, hself, rfl⟩
  have hcall : ∀ {c' call}, (s'.setCall c (some ⟨args, some id, .committed⟩)).calls c' = some call →
      (c' = c ∧ call = ⟨args, some id, .committed⟩) ∨ (c' ≠ c ∧ s.calls c' = some call) := by
    intro c' call hc'
    by_cases hcc : c' = c
    · subst hcc
      rw [Cancellation.calls_setCall_self] at hc'
      exact .inl ⟨rfl, (Option.some.inj hc').symm⟩
    · rw [Cancellation.calls_setCall_of_ne hcc, hcalls] at hc'
      exact .inr ⟨hcc, hc'⟩
  refine ⟨hs ▸ ⟨h.registered.tasks, h.registered.pendingWork⟩, ?_, ?_, fun other hother => ?_,
    fun other hother => ?_, fun c' call hc' => ?_, fun c₁ c₂ call₁ call₂ other h₁ h₂ hid₁ hid₂ => ?_,
    fun other hother => ?_, fun future hfuture => ?_⟩
  · change Keyed s'.tasks
    rw [htasks]
    exact keyed_insert h.keyed (args.record id)
  · change Closed s'.tasks
    rw [htasks]
    exact closed_insert h.closed hheld.parent
  · change Given s'.background.manager.counter other
    rw [hmanager]
    change (s'.tasks.get other).isSome = true at hother
    rw [htasks, isSome_insert, Bool.or_eq_true, decide_eq_true_eq] at hother
    rcases hother with rfl | hother
    · exact (hheld.given _ rfl).1
    · exact h.given other hother
  · change (s'.handles.get other).isSome = true at hother
    rw [hhandles] at hother
    exact hmono other (h.handled other hother)
  · rcases hcall hc' with ⟨-, rfl⟩ | ⟨hcc, hc'⟩
    · exact hnew
    · have hother := h.calls c' call hc'
      have hne : ∀ other, call.taskId = some other → other ≠ id := fun other hid heq =>
        hcc (h.apart c' c call _ id hc' hat (heq ▸ hid) rfl)
      change CallHeld s'.tasks s'.handles s'.background.manager.counter call
      rw [hhandles, hmanager]
      refine ⟨fun p hp => hmono p (hother.parent p hp), hother.given, fun other hid hpc => ?_,
        fun other hid hpc => ?_⟩
      · rw [hold other (hne other hid)]
        exact hother.record other hid hpc
      · rw [hold other (hne other hid)]
        exact hother.fresh other hid hpc
  · rcases hcall h₁ with ⟨rfl, rfl⟩ | ⟨hne₁, hold₁⟩ <;> rcases hcall h₂ with ⟨rfl, rfl⟩ | ⟨hne₂, hold₂⟩
    · rfl
    · exact h.apart _ _ _ call₂ other hat hold₂ hid₁ hid₂
    · exact h.apart _ _ call₁ _ other hold₁ hat hid₁ hid₂
    · exact h.apart _ _ call₁ call₂ other hold₁ hold₂ hid₁ hid₂
  · change (s'.tasks.get other).isSome = true at hother
    change (s'.handles.get other).isSome = true ∨ _
    rw [hhandles]
    rw [htasks, isSome_insert, Bool.or_eq_true, decide_eq_true_eq] at hother
    rcases hother with rfl | hother
    · exact .inr ⟨c, _, Cancellation.calls_setCall_self _ _ _, rfl⟩
    · rcases h.returned other hother with hdone | ⟨c', call, hc', hcid⟩
      · exact .inl hdone
      · by_cases hcc : c' = c
        · subst hcc
          obtain rfl := Option.some.inj (hat.symm.trans hc')
          exact .inr ⟨c', _, Cancellation.calls_setCall_self _ _ _, hcid⟩
        · refine .inr ⟨c', call, ?_, hcid⟩
          rw [Cancellation.calls_setCall_of_ne hcc, hcalls]
          exact hc'
  · change future ∈ s'.background.futures at hfuture
    have hfuture' : future ∈ s.background.futures := by
      rw [← hs] at hfuture
      exact hfuture
    obtain ⟨record, hget, hcontext⟩ := h.futures future hfuture'
    refine ⟨record, ?_, hcontext⟩
    change s'.tasks.get future.taskId = some record
    rw [hold future.taskId (fun heq => by rw [heq, hfresh] at hget; cases hget)]
    exact hget

lemma Held.launch (h : Held s) {c : Nat} {args : SpawnArgs} {id : String}
    (hat : s.calls c = some ⟨args, some id, .committed⟩) :
    Held ((s.launch (args.record id)).setCall c (some ⟨args, some id, .launched⟩)) := by
  have hheld := h.calls c _ hat
  have hlaunched : Held (s.launch (args.record id)) := by
    refine ⟨h.registered, h.keyed, h.closed, h.given, h.handled, h.calls, h.apart, h.returned,
      fun future hfuture => ?_⟩
    rcases List.mem_append.mp hfuture with hold | hnew
    · exact h.futures future hold
    · rw [List.mem_singleton.mp hnew]
      exact hheld.record id rfl (.inl rfl)
  have hcommitted : (s.launch (args.record id)).calls c = some ⟨args, some id, .committed⟩ := hat
  refine hlaunched.setCall_some hcommitted rfl ?_
  exact ⟨hheld.parent, hheld.given, fun other hid _ => hheld.record other hid (.inl rfl),
    fun other _ hrecord => absurd (.inr rfl) hrecord⟩

lemma Held.insert (h : Held s) {c : Nat} {args : SpawnArgs} {id : String}
    (hat : s.calls c = some ⟨args, some id, .launched⟩) (handle : TaskHandle) :
    Held ((s.setManager (s.background.manager.insertHandleAndCancelIfParentRunCancelled id handle
      args.context)).setCall c none) := by
  have hheld := h.calls c _ hat
  obtain ⟨record, hrecord, -⟩ := hheld.record id rfl (.inr rfl)
  generalize hm : s.background.manager.insertHandleAndCancelIfParentRunCancelled id handle
    args.context = manager
  have hhandles : ∀ other, (manager.handles.get other).isSome =
      (decide (other = id) || (s.handles.get other).isSome) := fun other => by
    rw [← hm, handles_insert]
    rfl
  have hcounter : manager.counter = s.background.manager.counter := hm ▸ counter_insert _ _ _ _
  have hcall : ∀ {c' call}, ((s.setManager manager).setCall c none).calls c' = some call →
      c' ≠ c ∧ s.calls c' = some call := by
    intro c' call hc'
    by_cases hcc : c' = c
    · subst hcc
      rw [Cancellation.calls_setCall_self] at hc'
      cases hc'
    · rw [Cancellation.calls_setCall_of_ne hcc] at hc'
      exact ⟨hcc, hc'⟩
  refine ⟨h.registered, h.keyed, h.closed, fun other hother => ?_, fun other hother => ?_,
    fun c' call hc' => ?_, fun c₁ c₂ call₁ call₂ other h₁ h₂ =>
    h.apart c₁ c₂ call₁ call₂ other (hcall h₁).2 (hcall h₂).2, fun other hother => ?_, h.futures⟩
  · change Given manager.counter other
    rw [hcounter]
    exact h.given other hother
  · change (manager.handles.get other).isSome = true at hother
    rw [hhandles, Bool.or_eq_true, decide_eq_true_eq] at hother
    rcases hother with rfl | hother
    · change (s.tasks.get other).isSome = true
      rw [hrecord]
      rfl
    · exact h.handled other hother
  · obtain ⟨hcc, hc'⟩ := hcall hc'
    have hother := h.calls c' call hc'
    refine ⟨hother.parent, fun other hid => ⟨?_, ?_⟩, hother.record, hother.fresh⟩
    · change Given manager.counter other
      rw [hcounter]
      exact (hother.given other hid).1
    · refine Option.not_isSome_iff_eq_none.mp ?_
      change ¬ (manager.handles.get other).isSome = true
      have hne : other ≠ id := fun heq => hcc (h.apart c' c call _ id hc' hat (heq ▸ hid) rfl)
      rw [hhandles, decide_eq_false hne, Bool.false_or, (hother.given other hid).2]
      exact nofun
  · change (manager.handles.get other).isSome = true ∨ _
    rw [hhandles]
    rcases h.returned other hother with hdone | ⟨c', call, hc', hcid⟩
    · exact .inl (by rw [hdone, Bool.or_true])
    · by_cases hcc : c' = c
      · subst hcc
        obtain rfl := Option.some.inj (hat.symm.trans hc')
        exact .inl (by rw [decide_eq_true (Option.some.inj hcid).symm]; rfl)
      · refine .inr ⟨c', call, ?_, hcid⟩
        rw [Cancellation.calls_setCall_of_ne hcc]
        exact hc'

lemma completed_taskId (record : PersistedTaskMeta J) (result : TaskResult J) (now : Nat) :
    (record.completed result now).taskId = record.taskId := by
  cases result <;> rfl

lemma completed_parentContext (record : PersistedTaskMeta J) (result : TaskResult J) (now : Nat) :
    (record.completed result now).parentContext = record.parentContext := by
  cases result <;> rfl

lemma completed_status (record : PersistedTaskMeta J) (result : TaskResult J) (now : Nat) :
    (record.completed result now).status ≠ .running := by
  cases result <;> exact nofun

lemma Held.completed (h : Held s) (index : Nat) (result : TaskResult J) (now : Nat) :
    (s.background.complete index result now = s.background) ∨
      ∃ future ∈ s.background.futures,
        s.background.complete index result now = ⟨s.background.manager,
          s.background.store.applied [.keyPatch .tasks
            (BackgroundTaskStateAction.upsert (future.completed result now))],
          s.background.futures.eraseIdx index⟩ ∧
        SameContexts s.tasks (s.tasks.insert future.taskId (future.completed result now)) := by
  unfold Background.complete
  cases hindex : s.background.futures[index]? with
  | none => exact .inl rfl
  | some future =>
    have hmem : future ∈ s.background.futures := List.mem_of_getElem? hindex
    obtain ⟨record, hget, hcontext⟩ := h.futures future hmem
    refine .inr ⟨future, hmem, ?_, fun id => ?_⟩
    · simp only [commitMeta_eq h.registered]
    · rw [Table.get_insert]
      split
      · rename_i hid
        rw [hid, hget, Option.map_some, Option.map_some, completed_parentContext, hcontext]
      · rfl

lemma SameContexts.isSome {tasks tasks' : Table String (PersistedTaskMeta J)}
    (h : SameContexts tasks tasks') (id : String) :
    (tasks'.get id).isSome = (tasks.get id).isSome := by
  have hcontext := congrArg Option.isSome (h id)
  rwa [Option.isSome_map, Option.isSome_map] at hcontext

lemma Held.complete (h : Held s) (index : Nat) (result : TaskResult J) (now : Nat) :
    Held { s with background := s.background.complete index result now } := by
  rcases h.completed index result now with heq | ⟨future, hmem, heq, hsame⟩
  · rw [heq]
    exact h
  rw [heq]
  generalize hs : ({ s with background := ⟨s.background.manager,
    s.background.store.applied [.keyPatch .tasks
      (BackgroundTaskStateAction.upsert (future.completed result now))],
    s.background.futures.eraseIdx index⟩ } : Cancellation codecs) = s'
  have htasks : s'.tasks = s.tasks.insert future.taskId (future.completed result now) := by
    rw [← hs, ← completed_taskId future result now]
    exact tasksOf_upsert _ _
  have hkept : ∀ id record, s.tasks.get id = some record →
      ∃ record', s'.tasks.get id = some record' ∧ record'.parentContext = record.parentContext := by
    intro id record hget
    have hcontext := hsame id
    rw [hget, ← htasks] at hcontext
    exact Option.map_eq_some_iff.mp hcontext
  have hsome : ∀ id, (s'.tasks.get id).isSome = (s.tasks.get id).isSome := by
    rw [htasks]
    exact hsame.isSome
  have hcalls : s'.calls = s.calls := hs ▸ rfl
  have hmanager : s'.background.manager = s.background.manager := hs ▸ rfl
  have hhandles : s'.handles = s.handles := hs ▸ rfl
  refine ⟨hs ▸ ⟨h.registered.tasks, h.registered.pendingWork⟩, ?_, ?_, ?_, ?_, ?_, ?_, ?_, ?_⟩
  · rw [htasks, ← completed_taskId future result now]
    exact keyed_insert h.keyed _
  · intro id p hp
    rw [htasks, hsame.parentOf] at hp
    rw [hsome]
    exact h.closed id p hp
  · intro id hid
    rw [hsome] at hid
    rw [hmanager]
    exact h.given id hid
  · intro id hid
    rw [hhandles] at hid
    rw [hsome]
    exact h.handled id hid
  · intro c call hc
    rw [hcalls] at hc
    have hcall := h.calls c call hc
    rw [hmanager, hhandles]
    refine ⟨fun p hp => by rw [hsome]; exact hcall.parent p hp, hcall.given, fun id hid hpc => ?_,
      fun id hid hpc => ?_⟩
    · obtain ⟨record, hget, hcontext⟩ := hcall.record id hid hpc
      obtain ⟨record', hget', hcontext'⟩ := hkept id record hget
      exact ⟨record', hget', hcontext'.trans hcontext⟩
    · refine Option.not_isSome_iff_eq_none.mp ?_
      rw [hsome, hcall.fresh id hid hpc]
      exact nofun
  · rw [hcalls]
    exact h.apart
  · intro id hid
    rw [hsome] at hid
    rw [hhandles, hcalls]
    exact h.returned id hid
  · intro other hother
    have hother' : other ∈ s.background.futures := by
      rw [← hs] at hother
      exact List.mem_of_mem_eraseIdx hother
    obtain ⟨record, hget, hcontext⟩ := h.futures other hother'
    obtain ⟨record', hget', hcontext'⟩ := hkept _ record hget
    exact ⟨record', hget', hcontext'.trans hcontext⟩

/-- The counter of the ids does not wrap around. -/
def Unwrapped (s : Cancellation codecs) : Event J → Prop
  | .enter .. | .reserve _ => s.background.manager.counter + 1 < 2 ^ 64
  | _ => True

lemma Turn.held {s' : Cancellation codecs} {event : Event J} (h : Turn runId s event s')
    (hwrap : Unwrapped s event) (hs : Held s) : Held s' := by
  cases h with
  | enter idle parent =>
    refine hs.reserve hwrap (fun old hold => ?_) (by rintro (h | h) <;> cases h) parent
    rw [idle] at hold
    cases hold
  | enterAgent idle parent => exact hs.enter idle parent
  | named at_ checked =>
    have hheld := hs.calls _ _ at_
    exact hs.setCall_some at_ rfl ⟨hheld.parent, hheld.given,
      fun _ _ hpc => absurd hpc (by rintro (h | h) <;> cases h),
      fun id hid _ => hheld.fresh id hid (by rintro (h | h) <;> cases h)⟩
  | misnamed at_ checked =>
    exact hs.setCall_none at_ (fun id hid =>
      .inl ((hs.calls _ _ at_).fresh id hid (by rintro (h | h) <;> cases h)))
  | admitted at_ checked =>
    have hheld := hs.calls _ _ at_
    exact hs.setCall_some at_ rfl ⟨hheld.parent, hheld.given,
      fun _ _ hpc => absurd hpc (by rintro (h | h) <;> cases h),
      fun id hid _ => hheld.fresh id hid (by rintro (h | h) <;> cases h)⟩
  | refused at_ checked =>
    exact hs.setCall_none at_ (fun id hid =>
      .inl ((hs.calls _ _ at_).fresh id hid (by rintro (h | h) <;> cases h)))
  | reserve at_ =>
    refine hs.reserve hwrap (fun old hold => ?_) (by rintro (h | h) <;> cases h)
      (hs.calls _ _ at_).parent
    obtain rfl := Option.some.inj (at_.symm.trans hold)
    rfl
  | committed at_ commit =>
    rw [commitMeta_eq hs.registered] at commit
    obtain ⟨-, rfl⟩ := Prod.mk.inj commit
    exact hs.commit at_
  | uncommitted at_ commit =>
    rw [commitMeta_eq hs.registered] at commit
    cases (Prod.mk.inj commit).1
  | launch at_ => exact hs.launch at_
  | insert at_ => exact hs.insert at_ _
  | complete index result now => exact hs.complete index result now
  | mark at_ =>
    have hmarked : Held (s.setManager (s.background.manager.markCancelled runId)) :=
      hs.setManager rfl (fun _ => rfl)
    exact hmarked.setSweep _
  | roots at_ => exact hs.setSweep _
  | walked at_ tree => exact hs.setSweep _
  | absent at_ tree => exact hs.setSweep _
  | signal at_ =>
    refine (hs.setManager (get_signalTree _ _ _ "").2.1 (fun id => ?_)).setSweep _
    rw [(get_signalTree _ _ _ id).1, Option.isSome_map]
    rfl
  | finish at_ => exact hs.setSweep _

end Tables

end Awaken.Background
