import Awaken.Stores.MemoryStore.Append

namespace Awaken.Stores.MemoryStore.InMemoryStore

open Awaken.Lib Awaken.Contract Awaken.Contract.Storage Awaken.Contract.MessageAppend

variable {J C : Type} {s s' : InMemoryStore J C} {threadId : String} {run : RunRecord J}

def StoresRun {α : Type} (s : InMemoryStore J C) (run : RunRecord J) (reply : Reply J C α) : Prop :=
  (∀ value, reply.1 = .ok value → reply.2.runs = s.runs.insert run.runId run) ∧
    ∀ e, reply.1 = .error e → reply.2.runs = s.runs

lemma storesRun_error {α : Type} {e : StorageError} (h : s'.runs = s.runs) :
    s.StoresRun run ((.error e, s') : Reply J C α) :=
  ⟨(fun _ hok => by cases hok), fun _ _ => h⟩

lemma storesRun_ok {α : Type} {value : α} (h : s'.runs = s.runs.insert run.runId run) :
    s.StoresRun run ((.ok value, s') : Reply J C α) :=
  ⟨fun _ _ => h, fun _ herror => by cases herror⟩

@[simp] lemma runs_touchPending (s : InMemoryStore J C) (threadId : String) :
    (s.touchPending threadId).runs = s.runs := by
  unfold touchPending
  split <;> rfl

lemma runs_appendPending (s : InMemoryStore J C) (gen : Nat → String) (now : Nat)
    (threadId : String) (messages : List (Message J C)) (mode : DeliveryMode) :
    (s.appendPendingMessageRecords gen now threadId messages mode).2.runs = s.runs := by
  unfold appendPendingMessageRecords
  dsimp only
  split
  · exact runs_touchPending s threadId
  · exact runs_touchPending s threadId

lemma runs_freezeSelected (s : InMemoryStore J C) (gen : Nat → String) (threadId : String)
    (selectedIndexes : List Nat) :
    (s.freezeSelected gen threadId selectedIndexes).2.runs = s.runs := by
  unfold freezeSelected
  dsimp only
  split
  · exact runs_touchMessages s threadId
  · exact runs_touchMessages s threadId

lemma storesRun_freezeExpected (s : InMemoryStore J C) (gen : Nat → String) (now : Nat)
    (threadId : String) (boundary : DeliveryBoundary) (ids : List String) (run : RunRecord J) :
    s.StoresRun run (s.freezeExpected gen now threadId boundary ids run) := by
  unfold freezeExpected
  dsimp only
  split
  · exact storesRun_error rfl
  · have hruns := runs_freezeSelected s gen threadId
      (selectPendingForFreezeForRun (s.pending threadId) boundary (some run.runId))
    split
    · rename_i hfreeze
      rw [hfreeze] at hruns
      exact storesRun_error hruns
    · rename_i store hfreeze
      rw [hfreeze] at hruns
      refine storesRun_ok ?_
      change store.runs.insert run.runId run = _
      rw [hruns]

def RunsChange (s s' : InMemoryStore J C) : Prop :=
  s'.runs = s.runs ∨ ∃ run, s'.runs = s.runs.insert run.runId run

lemma StoresRun.change {α : Type} {reply : Reply J C α} (h : s.StoresRun run reply) :
    s.RunsChange reply.2 := by
  cases hreply : reply.1 with
  | error e => exact .inl (h.2 e hreply)
  | ok value => exact .inr ⟨run, h.1 value hreply⟩

lemma runs_saveThread (s : InMemoryStore J C) (thread : Thread J) :
    (s.saveThread thread).2.runs = s.runs := by
  unfold saveThread
  dsimp only
  split <;> rfl

lemma runs_saveThreadValidated (s : InMemoryStore J C) (thread : Thread J) :
    (s.saveThreadValidated thread).2.runs = s.runs := by
  unfold saveThreadValidated
  dsimp only
  split
  · rfl
  · split <;> rfl

lemma runs_updateThreadMetadata (s : InMemoryStore J C) (id : String)
    (metadata : ThreadMetadata J) : (s.updateThreadMetadata id metadata).2.runs = s.runs := by
  unfold updateThreadMetadata
  split <;> rfl

lemma runs_saveMessages (s : InMemoryStore J C) (messages : List (Message J C)) :
    (s.saveMessages threadId messages).2.runs = s.runs := by
  unfold saveMessages
  split <;> rfl

lemma runs_appendMessageRecords (s : InMemoryStore J C) (gen : Nat → String)
    (messages : List (Message J C)) :
    (s.appendMessageRecords gen threadId messages).2.runs = s.runs := by
  unfold appendMessageRecords
  dsimp only
  split
  · exact runs_touchMessages s threadId
  · exact runs_touchMessages s threadId

lemma runs_deleteMessages (s : InMemoryStore J C) (threadId : String) :
    (s.deleteMessages threadId).2.runs = s.runs := by
  unfold deleteMessages
  split <;> rfl

lemma runs_updatePending (s : InMemoryStore J C) (now : Nat) (threadId pendingId : String)
    (revision : Option Nat) (message : Message J C) :
    (s.updatePendingMessageRecordChecked now threadId pendingId revision message).2.runs = s.runs := by
  unfold updatePendingMessageRecordChecked
  dsimp only
  split
  · split <;> rfl
  · rfl

lemma runs_retractPending (s : InMemoryStore J C) (threadId pendingId : String)
    (revision : Option Nat) :
    (s.retractPendingMessageRecordChecked threadId pendingId revision).2.runs = s.runs := by
  unfold retractPendingMessageRecordChecked
  dsimp only
  split
  · split <;> rfl
  · rfl

lemma runs_reorderPending (s : InMemoryStore J C) (now : Nat) (threadId : String)
    (revision : Option Nat) (ids : List String) :
    (s.reorderPendingMessageRecordsChecked now threadId revision ids).2.runs = s.runs := by
  unfold reorderPendingMessageRecordsChecked
  split
  · rfl
  · split
    · rfl
    · split
      · rfl
      · split <;> rfl

lemma runs_freezePending (s : InMemoryStore J C) (gen : Nat → String) (threadId : String)
    (boundary : DeliveryBoundary) (version : Option Nat) :
    (s.freezePendingMessageRecords gen threadId boundary version).2.runs = s.runs := by
  unfold freezePendingMessageRecords
  dsimp only
  split
  · exact runs_touchMessages s threadId
  · split
    · exact runs_touchMessages s threadId
    · split
      · exact runs_touchMessages s threadId
      · rw [runs_freezeSelected, runs_touchMessages]

def RunsKeyed (s : InMemoryStore J C) : Prop :=
  ∀ runId run, s.loadRun runId = some run → run.runId = runId

lemma RunsKeyed.change (h : s.RunsKeyed) (hchange : s.RunsChange s') : s'.RunsKeyed := by
  intro runId run hload
  rw [loadRun] at hload
  obtain hruns | ⟨stored, hruns⟩ := hchange
  · rw [hruns] at hload
    exact h runId run hload
  · rw [hruns, Table.get_insert] at hload
    split at hload
    · rename_i hid
      rw [← Option.some.inj hload, hid]
    · exact h runId run hload

section Step

variable [DecidableEq J]

lemma storesRun_freezeWithRun (s : InMemoryStore J C) (gen : Nat → String) (now : Nat)
    (threadId : String) (boundary : DeliveryBoundary) (version : Option Nat) (ids : List String)
    (run : RunRecord J) :
    s.StoresRun run (s.freezePendingMessageRecordsWithRun gen now threadId boundary version ids run) := by
  unfold freezePendingMessageRecordsWithRun
  split
  · exact storesRun_error rfl
  · have h := storesRun_freezeExpected (s.touchPending threadId) gen now threadId boundary ids run
    rwa [StoresRun, runs_touchPending] at h

lemma storesRun_appendAndFreeze (s : InMemoryStore J C) (gen : Nat → String) (now : Nat)
    (threadId : String) (messages : List (Message J C)) (mode : DeliveryMode)
    (boundary : DeliveryBoundary) (version : Option Nat) (ids : List String) (run : RunRecord J) :
    s.StoresRun run (s.appendAndFreezePendingMessageRecordsWithRun gen now threadId messages mode
      boundary version ids run) := by
  unfold appendAndFreezePendingMessageRecordsWithRun
  split
  · exact storesRun_error rfl
  · have hruns := runs_appendPending s gen now threadId messages mode
    split
    · rename_i happend
      rw [happend] at hruns
      exact storesRun_error hruns
    · rename_i store happend
      rw [happend] at hruns
      have h := storesRun_freezeExpected store gen now threadId boundary ids run
      rwa [StoresRun, hruns] at h

lemma storesRun_checkpointAppend (s : InMemoryStore J C) (now : Nat) (threadId : String)
    (messages : List (Message J C)) (version : Option Nat) (run : RunRecord J) :
    s.StoresRun run (s.checkpointAppend now threadId messages version run) :=
  ⟨fun _ hok => (checkpointAppend_ok (Prod.ext hok rfl)).runs,
    fun _ herror => (checkpointAppend_error (Prod.ext herror rfl)).2⟩

lemma storesRun_checkpoint (s : InMemoryStore J C) (now : Nat) (threadId : String)
    (messages : List (Message J C)) (run : RunRecord J) :
    s.StoresRun run (s.checkpoint now threadId messages run) := by
  unfold checkpoint
  split
  · exact storesRun_error rfl
  · exact storesRun_ok rfl

lemma runsChange_createRun (s : InMemoryStore J C) (record : RunRecord J) :
    s.RunsChange (s.createRun record).2 := by
  unfold createRun
  split
  · exact .inl rfl
  · split
    · exact .inl rfl
    · exact .inr ⟨record, rfl⟩

theorem runsChange_step {call : StoreCall J C} (h : StoreStep s call s') : s.RunsChange s' := by
  obtain ⟨draw, rfl⟩ := h
  cases call with
  | saveThread thread => exact .inl (runs_saveThread s thread)
  | saveThreadValidated thread => exact .inl (runs_saveThreadValidated s thread)
  | deleteThread threadId => exact .inl rfl
  | saveThreadState threadId state => exact .inl rfl
  | updateThreadMetadata id metadata => exact .inl (runs_updateThreadMetadata s id metadata)
  | saveMessages threadId messages => exact .inl (runs_saveMessages s messages)
  | appendMessageRecords threadId messages =>
    exact .inl (runs_appendMessageRecords s draw.gen messages)
  | deleteMessages threadId => exact .inl (runs_deleteMessages s threadId)
  | createRun record => exact runsChange_createRun s record
  | checkpoint threadId messages run =>
    exact (storesRun_checkpoint s draw.now threadId messages run).change
  | checkpointAppend threadId messages version run =>
    exact (storesRun_checkpointAppend s draw.now threadId messages version run).change
  | appendPending threadId messages mode =>
    exact .inl (runs_appendPending s draw.gen draw.now threadId messages mode)
  | updatePending threadId pendingId revision message =>
    exact .inl (runs_updatePending s draw.now threadId pendingId revision message)
  | retractPending threadId pendingId revision =>
    exact .inl (runs_retractPending s threadId pendingId revision)
  | reorderPending threadId revision ids =>
    exact .inl (runs_reorderPending s draw.now threadId revision ids)
  | freezePending threadId boundary version =>
    exact .inl (runs_freezePending s draw.gen threadId boundary version)
  | freezePendingWithRun threadId boundary version ids run =>
    exact (storesRun_freezeWithRun s draw.gen draw.now threadId boundary version ids run).change
  | appendAndFreezePendingWithRun threadId messages mode boundary version ids run =>
    exact (storesRun_appendAndFreeze s draw.gen draw.now threadId messages mode boundary version ids
      run).change

end Step

end Awaken.Stores.MemoryStore.InMemoryStore
